import Gleaner.Proofs.Spec.PathText
import Gleaner.Proofs.Text.Ends
import Gleaner.Proofs.Text.Slice
import Gleaner.Proofs.Text.Trimming
/-!
# The scan of one line

What the scan for locations makes of each kind of line of a document in block style.

* `Starts` are the texts that a line can begin with after its indentation, and `scan_line` says that
  the scan goes on with such a text in its column;
* `scan_fillers`, `scan_content`: lines between entries and lines of a block of text enter nothing;
* `run` is the scan from inside of a line on, and `run_compact`, `run_dash`, `run_key`, `run_text`
  take it through the text.
-/

namespace Gleaner
namespace Layout

open Locator (Frame Progress isSkipped isDash splitKey? cutAtColon?)

/-! ## Texts in a line -/

/-- A text that begins a line after its indentation, and is more than a comment. -/
structure Starts (cs : List Char) : Prop where
  bare : Text.Bare cs
  kept : isSkipped cs = false

theorem Starts.ne_nil {cs : List Char} (h : Starts cs) : cs ≠ [] := by
  rintro rfl
  exact absurd h.kept (by decide)

theorem trimEnd_of_bare {cs : List Char} (h : Text.Bare cs) : Text.trimEnd cs = cs := by
  have htrim := Text.trim_eq_self_iff.2 h
  rwa [Text.trim, Text.trimStart, Text.dropWhile_eq_self h.head] at htrim

/-- What is not blank stays in front of what is left at the end. -/
theorem trimEnd_cons {c : Char} (hc : Text.isBlank c = false) (cs : List Char) :
    Text.trimEnd (c :: cs) = c :: Text.trimEnd cs := by
  rw [Text.trimEnd, List.reverse_cons, List.dropWhile_append]
  cases hrest : List.dropWhile Text.isBlank cs.reverse with
  | nil => simp [Text.trimEnd, hrest, hc]
  | cons d ds => simp [Text.trimEnd, hrest]

/-- Indentation ends before a character that is no space. -/
theorem takeWhile_spaces {cs : List Char} (h : cs.head? ≠ some ' ') (n : Nat) :
    (spaces n ++ cs).takeWhile (· == ' ') = spaces n := by
  rw [List.takeWhile_append_of_pos (by simp [spaces])]
  cases cs with
  | nil => exact List.append_nil _
  | cons c cs =>
      have hc : ¬ (c == ' ') = true := by
        rw [beq_iff_eq]
        rintro rfl
        exact h rfl
      have hstop := List.takeWhile_cons_of_neg (p := (· == ' ')) (l := cs) hc
      rw [hstop, List.append_nil]

theorem head?_ne_space {cs : List Char} (h : Text.Bare cs) : cs.head? ≠ some ' ' := by
  intro hspace
  exact absurd (h.head ' ' hspace) (by decide)

theorem drop_spaces (n : Nat) (cs : List Char) : (spaces n ++ cs).drop n = cs := by
  simp [spaces]

/-! ## Lines as a whole -/

/-- Where the text of a line begins, the scan goes on, and no block of text is open any more. -/
theorem line_of_starts {o : Progress} {cs : List Char} (hcs : Starts cs) {column : Nat}
    (hblock : ∀ owner ∈ o.block, column ≤ owner) (number : Nat) :
    o.line number (spaces column ++ cs) =
      Progress.content number (cs.length + 1) column cs { o with block := none } := by
  have hindent := takeWhile_spaces (head?_ne_space hcs.bare) column
  have hlength : (spaces column).length = column := List.length_replicate
  have hrest : Text.trimEnd ((spaces column ++ cs).drop column) = cs := by
    rw [drop_spaces, trimEnd_of_bare hcs.bare]
  unfold Progress.line
  simp only [hindent, hlength, hrest]
  cases howner : o.block with
  | none => simp only [hcs.kept, Bool.false_eq_true, if_false]
  | some owner =>
      have hpassed : (cs.isEmpty || decide (owner < column)) = false := by
        simp [hcs.ne_nil, hblock owner howner]
      simp only [hpassed, hcs.kept, Bool.false_eq_true, if_false]

/-- The lines are scanned one after the other. -/
theorem scan_append (n : Nat) (front back : List (List Char)) (o : Progress) :
    Progress.scan n (front ++ back) o =
      Progress.scan (n + front.length) back (Progress.scan n front o) := by
  induction front generalizing n o with
  | nil => rfl
  | cons raw front ih =>
      rw [List.cons_append, Progress.scan, ih, Progress.scan, List.length_cons, Nat.add_right_comm,
        Nat.add_assoc]

/-- A line with nothing to enter at most ends a block of text. -/
theorem line_of_skipped {o : Progress} {raw : List Char} {number : Nat}
    (h : isSkipped (Text.trimEnd (raw.drop (raw.takeWhile (· == ' ')).length)) = true) :
    o.line number raw = o ∨ o.line number raw = { o with block := none } := by
  unfold Progress.line
  simp only [h, if_true]
  split
  · split
    · exact .inl rfl
    · exact .inr rfl
  · exact .inr (if_neg Bool.false_ne_true)

/-- No end of a blank text is more than blanks. -/
theorem trimEnd_drop_of_blank {cs : List Char} (h : ∀ c ∈ cs, Text.isBlank c = true) (n : Nat) :
    Text.trimEnd (cs.drop n) = [] := by
  have hdrop : (cs.drop n).reverse.dropWhile Text.isBlank = [] := by
    rw [List.dropWhile_eq_nil_iff]
    intro c hc
    exact h c (List.mem_of_mem_drop (List.mem_reverse.1 hc))
  rw [Text.trimEnd, hdrop]
  rfl

/-- A line between entries at most ends a block of text. -/
theorem line_filler (o : Progress) (number : Nat) (f : Filler) :
    o.line number f.line = o ∨ o.line number f.line = { o with block := none } := by
  apply line_of_skipped
  cases f with
  | blank line =>
      rw [Filler.line, trimEnd_drop_of_blank (List.all_eq_true.1 line.blank)]
      rfl
  | comment indent text =>
      have hindent : (spaces indent ++ '#' :: text).takeWhile (· == ' ') = spaces indent :=
        takeWhile_spaces (by simp) indent
      rw [Filler.line, hindent, spaces, List.length_replicate, ← spaces, drop_spaces,
        trimEnd_cons (by decide)]
      rfl

/-- Blank lines and comments change nothing but whether a block is open. -/
theorem scan_fillers (o : Progress) (number : Nat) (fs : List Filler) :
    Progress.scan number (fs.map Filler.line) o = o ∨
      Progress.scan number (fs.map Filler.line) o = { o with block := none } := by
  induction fs generalizing o number with
  | nil => exact .inl rfl
  | cons f fs ih =>
      rw [List.map_cons, Progress.scan]
      rcases line_filler o number f with heq | heq
      · rw [heq]
        exact ih o (number + 1)
      · rw [heq]
        exact .inr (or_self_iff.1 (ih { o with block := none } (number + 1)))

/-- Outside of blocks, blank lines and comments change nothing. -/
theorem scan_fillers_of_none {o : Progress} (h : o.block = none) (number : Nat)
    (fs : List Filler) : Progress.scan number (fs.map Filler.line) o = o := by
  rcases scan_fillers o number fs with heq | heq
  · exact heq
  · rw [heq, ← h]

/-- A line of a block of text, blank or deeper than the key, is passed. -/
theorem line_content {o : Progress} {column : Nat} (h : o.block = some column) (number : Nat)
    (line : ContentLine) : o.line number (line.line column) = o := by
  unfold Progress.line
  simp only [h]
  refine if_pos ?_
  rw [Bool.or_eq_true, decide_eq_true_eq]
  cases line with
  | blank line =>
      left
      rw [ContentLine.line, trimEnd_drop_of_blank (List.all_eq_true.1 line.blank)]
      rfl
  | deeper indent text =>
      right
      have hspaces : ((spaces (column + 1 + indent) ++ text).takeWhile (· == ' ')) =
          spaces (column + 1 + indent) ++ text.takeWhile (· == ' ') :=
        List.takeWhile_append_of_pos (by simp [spaces])
      rw [ContentLine.line, hspaces, List.length_append, spaces, List.length_replicate]
      omega

/-- The lines of a block change nothing while it is open. -/
theorem scan_content {o : Progress} {column : Nat} (h : o.block = some column) (number : Nat)
    (content : List ContentLine) :
    Progress.scan number (content.map (ContentLine.line column)) o = o := by
  induction content generalizing number with
  | nil => rfl
  | cons line content ih => rw [List.map_cons, Progress.scan, line_content h, ih]

/-! ## The scan from inside of a line on -/

/-- How many steps are allowed does not matter as long as there are more than characters. -/
theorem content_fuel {fuel fuel' : Nat} {cs : List Char} (hfuel : cs.length < fuel)
    (hfuel' : cs.length < fuel') (line column : Nat) (o : Progress) :
    Progress.content line fuel column cs o = Progress.content line fuel' column cs o := by
  induction fuel generalizing fuel' cs column o with
  | zero => omega
  | succ fuel ih =>
      cases fuel' with
      | zero => omega
      | succ fuel' =>
          rw [Progress.content, Progress.content]
          by_cases hdash : isDash cs = true
          · -- what follows a dash is shorter, so both bounds leave enough for it
            have hshorter : (Text.trimStart (cs.drop 1)).length < cs.length := by
              have htrim := List.length_dropWhile_le Text.isBlank (cs.drop 1)
              have hdrop : (cs.drop 1).length < cs.length := by
                cases cs with
                | nil => cases hdash
                | cons c cs => simp
              exact Nat.lt_of_le_of_lt htrim hdrop
            rw [if_pos hdash, if_pos hdash]
            exact ih (by omega) (by omega) _ _
          · rw [if_neg hdash, if_neg hdash]

/-- The scan of the rest of a line, which begins in a column, and of the lines after it. -/
def run (line column : Nat) (head : List Char) (tail : List (List Char)) (o : Progress) :
    Progress :=
  Progress.scan (line + 1) tail (Progress.content line (head.length + 1) column head o)

variable {o : Progress} {line column : Nat}

theorem run_append (head : List Char) (tail more : List (List Char)) :
    run line column head (tail ++ more) o =
      Progress.scan (line + 1 + tail.length) more (run line column head tail o) :=
  scan_append _ tail more _

/-- A line that begins as it should, and the lines after it. -/
theorem scan_line {head : List Char} (hhead : Starts head)
    (hblock : ∀ owner ∈ o.block, column ≤ owner) (tail : List (List Char)) :
    Progress.scan line ((spaces column ++ head) :: tail) o =
      run line column head tail { o with block := none } := by
  rw [Progress.scan, line_of_starts hhead hblock]
  rfl

theorem trimStart_spaces {cs : List Char} (h : Text.Bare cs) (n : Nat) :
    Text.trimStart (spaces n ++ cs) = cs := by
  have hspaces : ∀ c ∈ spaces n, Text.isBlank c = true := by
    intro c hc
    rw [List.eq_of_mem_replicate hc]
    decide
  rw [Text.trimStart, List.dropWhile_append_of_pos hspaces, Text.dropWhile_eq_self h.head]

theorem trim_spaces {cs : List Char} (h : Text.Bare cs) (n : Nat) :
    Text.trim (spaces n ++ cs) = cs := by
  rw [Text.trim, trimStart_spaces h, trimEnd_of_bare h]

theorem byteLength_spaces (n : Nat) : Text.byteLength (spaces n) = n := by
  induction n with
  | zero => rfl
  | succ n ih =>
      rw [spaces, List.replicate_succ, Text.byteLength_cons, ← spaces, ih, Nat.add_comm]
      rfl

/-- An item with something on the line of its dash. -/
theorem run_compact {head : List Char} (hhead : Starts head) (space : Nat)
    (tail : List (List Char)) :
    run line column ('-' :: spaces (space + 1) ++ head) tail o =
      run line (column + 2 + space) head tail (o.item line column) := by
  have hdash : isDash ('-' :: spaces (space + 1) ++ head) = true := rfl
  have hafter : ('-' :: spaces (space + 1) ++ head).drop 1 = spaces (space + 1) ++ head := rfl
  have hwidth : Text.byteLength (spaces (space + 1) ++ head) - Text.byteLength head =
      space + 1 := by
    rw [Text.byteLength_append, byteLength_spaces, Nat.add_sub_cancel]
  have hcolumn : column + (1 + (space + 1)) = column + 2 + space := by omega
  unfold run
  rw [Progress.content, if_pos hdash]
  simp only [hafter, trimStart_spaces hhead.bare, hwidth, hcolumn]
  rw [content_fuel _ (Nat.lt_succ_self _)]
  simp only [List.length_append, List.length_cons]
  omega

/-- A dash alone. -/
theorem run_dash (tail : List (List Char)) :
    run line column ['-'] tail o = Progress.scan (line + 1) tail (o.item line column) := by
  rfl

/-- A key ends at its colon where a space or nothing follows. -/
theorem cutAtColon?_append {name value : List Char} (hname : ':' ∉ name)
    (hvalue : ∀ c ∈ value.head?, c = ' ') :
    cutAtColon? (name ++ ':' :: value) = some (name, value) := by
  induction name with
  | nil =>
      cases value with
      | nil => rfl
      | cons c value =>
          rw [hvalue c rfl]
          rfl
  | cons c name ih =>
      obtain ⟨hc, hname⟩ := not_or.1 (mt List.mem_cons.2 hname)
      rw [List.cons_append, cutAtColon?, ih hname]
      · rfl
      · intro heq
        exact hc heq.symm

theorem Key.bare (k : Key) : Text.Bare k.text := by
  have hblank : ∀ c ∈ k.text, Text.isBlank c = false := fun c hc =>
    Text.isBlank_of_isNameChar (Key.isNameChar_of_mem hc)
  exact ⟨fun c hc => hblank c (List.mem_of_mem_head? hc),
    fun c hc => hblank c (List.mem_of_mem_getLast? hc)⟩

/-- The line of an entry is divided at the colon after the key. -/
theorem splitKey?_key (key : Key) {value : List Char} (hvalue : ∀ c ∈ value.head?, c = ' ') :
    splitKey? (key.text ++ ':' :: value) = some (key.text, Text.trim value) := by
  have hcut := cutAtColon?_append (key.not_mem (c := ':') (by decide)) hvalue
  have htrim := trimEnd_of_bare key.bare
  rcases key.exists_cons with ⟨c, rest, htext, hname⟩
  -- a key does not begin like any other value
  have hother : ∀ d, Text.isNameChar d = false → c ≠ d := by
    rintro d hd rfl
    rw [hname c List.mem_cons_self] at hd
    cases hd
  rw [htext] at hcut htrim ⊢
  rw [List.cons_append] at hcut ⊢
  unfold splitKey?
  split
  · rename_i heq
    exact absurd (List.cons.inj heq).1 (hother '\x7b' (by decide))
  · rename_i heq
    exact absurd (List.cons.inj heq).1 (hother '[' (by decide))
  · rename_i d more _ _ heq
    obtain ⟨rfl, rfl⟩ := List.cons.inj heq
    rw [if_neg, hcut]
    · simp [htrim]
    · rintro (rfl | rfl)
      · exact hother '"' (by decide) rfl
      · exact hother '\'' (by decide) rfl
  · rename_i heq
    cases heq

/-- A key with what follows its colon. -/
theorem run_key (key : Key) {value : List Char} (hvalue : ∀ c ∈ value.head?, c = ' ')
    (tail : List (List Char)) :
    run line column (key.text ++ ':' :: value) tail o =
      Progress.scan (line + 1) tail (o.key line column key.text (Text.trim value)) := by
  have hdash : isDash (key.text ++ ':' :: value) = false := by
    rcases key.exists_cons with ⟨c, rest, htext, hname⟩
    have hc : c ≠ '-' := by
      rintro rfl
      exact absurd (hname '-' List.mem_cons_self) (by decide)
    rw [htext]
    unfold isDash
    split
    · rename_i heq
      exact absurd (List.cons.inj heq).1 hc
    · rename_i heq
      exact absurd (List.cons.inj heq).1 hc
    · rfl
  unfold run
  rw [Progress.content, hdash, if_neg Bool.false_ne_true, splitKey?_key key hvalue]

/-- A key with nothing after its colon. -/
theorem run_key_alone (key : Key) (tail : List (List Char)) :
    run line column (key.text ++ [':']) tail o =
      Progress.scan (line + 1) tail (o.key line column key.text []) := by
  have hnone : ∀ c ∈ ([] : List Char).head?, c = ' ' := nofun
  exact run_key key hnone tail

/-- A key in quotes ends at the next quote, where a colon has to follow. -/
theorem splitKey?_quote {rest key after : List Char}
    (hcut : Text.cutAt? ['"'] rest = some (key, after)) :
    (splitKey? ('"' :: rest)).map Prod.fst = if after.head? = some ':' then some key else none := by
  unfold splitKey?
  split
  · rename_i heq
    exact absurd (List.cons.inj heq).1 (by decide)
  · rename_i heq
    exact absurd (List.cons.inj heq).1 (by decide)
  · rename_i c more _ _ heq
    obtain ⟨rfl, rfl⟩ := List.cons.inj heq
    -- the key ends at the next quote, and counts only if a colon follows it
    rw [if_pos (.inl rfl), hcut]
    split
    · rename_i heq
      obtain ⟨rfl, rfl⟩ := Prod.mk.inj (Option.some.inj heq)
      rfl
    · rename_i hother
      rw [if_neg]
      · rfl
      · intro hhead
        rcases List.head?_eq_some_iff.1 hhead with ⟨value, rfl⟩
        exact hother key value rfl
  · rename_i heq
    cases heq

/-- A text on its own is taken for the key that it seems to hold. -/
theorem splitKey?_text (q : Quoted) : (splitKey? q.text).map Prod.fst = q.imitated? := by
  have htext : q.text = '"' :: (q.body ++ ['"']) := rfl
  unfold Quoted.imitated?
  by_cases hquote : '"' ∈ q.body
  · -- the first quote in the text is taken for the end of the key
    rcases List.eq_append_cons_of_mem hquote with ⟨key, rest, hbody, hkey⟩
    rw [htext, hbody, List.append_assoc, List.cons_append,
      splitKey?_quote (Text.cutAt?_char hkey _), Text.cutAt?_char hkey]
    cases rest with
    | nil => rfl
    | cons c rest =>
        by_cases hc : c = ':'
        · subst hc
          rfl
        · simp [hc]
  · rw [htext, splitKey?_quote (Text.cutAt?_char hquote _)]
    cases hcut : Text.cutAt? ['"'] q.body with
    | none => rfl
    | some parts =>
        rw [(Text.cutAt?_eq_some_iff.1 hcut).1] at hquote
        exact absurd (by simp) hquote

/-- A text on its own is passed over, or taken for the key that it imitates. -/
theorem run_text (q : Quoted) :
    (q.imitated? = none → run line column q.text [] o = o) ∧
      ∀ key, q.imitated? = some key →
        ∃ value, run line column q.text [] o = o.key line column key value := by
  have hdash : isDash q.text = false := rfl
  have hrun : run line column q.text [] o =
      Progress.content line (q.text.length + 1) column q.text o := rfl
  rw [hrun, Progress.content, hdash, if_neg Bool.false_ne_true, ← splitKey?_text]
  cases splitKey? q.text with
  | none => simp
  | some found => simp

end Layout
end Gleaner
