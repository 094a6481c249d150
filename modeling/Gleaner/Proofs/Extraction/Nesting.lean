import Gleaner.Proofs.Text.Ends
import Gleaner.Selector.Reader
/-!
# Quotes and brackets of selectors

Reading a selector character by character, with the quotes, comments, escapes and brackets that are
open.

* `Nesting` is what is open at a place of a text, `Nesting.through` what is open after more of it;
* `Outside` says that a text leaves neither quotes nor square brackets open;
* `not_outside_append`: only a quote or a closing bracket leads out of them;
* `outside_of_extent`: where the reader of selectors ends a part, nothing is open.
-/

namespace Gleaner
namespace Selector

inductive Quote where
  | single
  | double
  deriving DecidableEq, Repr

def Quote.char : Quote → Char
  | .single => '\''
  | .double => '"'

def quote? (c : Char) : Option Quote :=
  if c = '"' then some .double else if c = '\'' then some .single else none

/-- What the next character of a selector is read as. -/
inductive Mode where
  | plain
  -- Directly after a slash, which begins a comment if a star follows.
  | slash
  -- Directly after a backslash.
  | escaped
  | comment
  -- In a comment, directly after a star.
  | star
  -- In quotes, directly after a backslash or not.
  | quoted (quote : Quote) (escaped : Bool)
  deriving DecidableEq, Repr

def Mode.isQuoted : Mode → Bool
  | .quoted _ _ => true
  | _ => false

structure Nesting where
  mode : Mode
  -- The closing brackets that are awaited, the innermost first.
  awaited : List Char
  deriving DecidableEq, Repr

namespace Nesting

def start : Nesting :=
  ⟨.plain, []⟩

/-- What is open after a character outside of quotes, comments and escapes. -/
def afterPlain (awaited : List Char) (c : Char) : Nesting :=
  if awaited.head? = some c then ⟨.plain, awaited.drop 1⟩
  else
    match quote? c with
    | some q => ⟨.quoted q false, awaited⟩
    | none =>
      if c = '\\' then ⟨.escaped, awaited⟩
      else if c = '/' then ⟨.slash, awaited⟩
      else ⟨.plain, (closing? c).toList ++ awaited⟩

def after (p : Nesting) (c : Char) : Nesting :=
  match p.mode with
  | .plain => afterPlain p.awaited c
  | .slash => if c = '*' then ⟨.comment, p.awaited⟩ else afterPlain p.awaited c
  | .escaped => ⟨.plain, p.awaited⟩
  | .comment => ⟨if c = '*' then .star else .comment, p.awaited⟩
  | .star => ⟨if c = '/' then .plain else if c = '*' then .star else .comment, p.awaited⟩
  | .quoted q true => ⟨.quoted q false, p.awaited⟩
  | .quoted q false => ⟨if c = q.char then .plain else .quoted q (c == '\\'), p.awaited⟩

def through (p : Nesting) (cs : List Char) : Nesting :=
  cs.foldl after p

theorem through_append (p : Nesting) (a b : List Char) :
    p.through (a ++ b) = (p.through a).through b :=
  List.foldl_append

/-- Neither quotes nor square brackets are open. -/
def IsOutside (p : Nesting) : Prop :=
  p.mode.isQuoted = false ∧ ']' ∉ p.awaited

instance (p : Nesting) : Decidable p.IsOutside :=
  inferInstanceAs (Decidable (_ ∧ _))

end Nesting

/-- A text leaves neither quotes nor square brackets open. -/
def Outside (cs : List Char) : Prop :=
  (Nesting.start.through cs).IsOutside

instance (cs : List Char) : Decidable (Outside cs) :=
  inferInstanceAs (Decidable (Nesting.IsOutside _))

/-- The characters that can lead out of quotes or square brackets. -/
def leadsOut (c : Char) : Bool :=
  c == '"' || c == '\'' || c == ']'

section LeadsOut

variable {c : Char} (hc : leadsOut c = false)

include hc

/-- An open square bracket stays open over a character that does not lead out. -/
theorem mem_awaited_afterPlain {awaited : List Char} (h : ']' ∈ awaited) :
    ']' ∈ (Nesting.afterPlain awaited c).awaited := by
  have hbracket : ']' ≠ c := by
    rintro rfl
    cases hc
  unfold Nesting.afterPlain
  split
  · -- the bracket that is closed is another one
    rename_i hhead
    rcases List.head?_eq_some_iff.1 hhead with ⟨rest, rfl⟩
    exact List.mem_of_ne_of_mem hbracket h
  · repeat' split
    all_goals first | exact h | exact List.mem_append_right _ h

/-- Only a quote or a closing bracket leads out of quotes and square brackets. -/
theorem not_isOutside_after {p : Nesting} (h : ¬p.IsOutside) : ¬(p.after c).IsOutside := by
  rcases p with ⟨mode, awaited⟩
  -- outside of quotations a closing bracket is still awaited
  have hmem : mode.isQuoted = false → ']' ∈ awaited := fun hplain => by
    simpa [Nesting.IsOutside, hplain] using h
  cases mode with
  | quoted q escaped =>
      have hquote : c ≠ q.char := by
        rintro rfl
        cases q <;> cases hc
      cases escaped with
      | true => exact fun hout => Bool.noConfusion hout.1
      | false =>
          intro hout
          have hplain := hout.1
          simp only [Nesting.after, hquote, if_false] at hplain
          cases hplain
  | plain => exact fun hout => hout.2 (mem_awaited_afterPlain hc (hmem rfl))
  | slash =>
      have hawaited := mem_awaited_afterPlain hc (hmem rfl)
      show ¬(if c = '*' then ⟨.comment, awaited⟩ else Nesting.afterPlain awaited c).IsOutside
      split
      · exact fun hout => hout.2 (hmem rfl)
      · exact fun hout => hout.2 hawaited
  | _ => exact fun hout => hout.2 (hmem rfl)

end LeadsOut

/-- Once inside, a text without quotes and closing square brackets does not lead out. -/
theorem not_outside_append {front more : List Char} (h : ¬Outside front)
    (hmore : more.any leadsOut = false) : ¬Outside (front ++ more) := by
  rw [Outside, Nesting.through_append]
  rw [Outside] at h
  generalize Nesting.start.through front = p at h ⊢
  induction more generalizing p with
  | nil => exact h
  | cons c more ih =>
      rw [List.any_cons, Bool.or_eq_false_iff] at hmore
      exact ih hmore.2 _ (not_isOutside_after hmore.1 h)

/-! ## Agreement with the reader -/

namespace Nesting

theorem through_cons (p : Nesting) (c : Char) (cs : List Char) :
    p.through (c :: cs) = (p.after c).through cs :=
  rfl

/-- Neither quotes nor a comment are open, and the next character of a text is read as itself. -/
structure Reads (p : Nesting) (awaited cs : List Char) : Prop where
  brackets : p.awaited = awaited
  mode : p.mode = .plain ∨ p.mode = .slash
  after : ∀ c ∈ cs.head?, p.after c = afterPlain awaited c

theorem reads_plain (awaited cs : List Char) : Reads ⟨.plain, awaited⟩ awaited cs :=
  ⟨rfl, .inl rfl, fun _ _ => rfl⟩

/-- A slash that begins no comment is read on from as any plain character is. -/
theorem reads_slash {cs : List Char} (awaited : List Char) (h : cs.head? ≠ some '*') :
    Reads ⟨.slash, awaited⟩ awaited cs where
  brackets := rfl
  mode := .inr rfl
  after c hc := by
    have hstar : c ≠ '*' := by
      rintro rfl
      exact h hc
    exact if_neg hstar

theorem afterPlain_of_not_quote {awaited : List Char} {c : Char} (hother : awaited.head? ≠ some c)
    (hquote : ¬(c = '"' ∨ c = '\'')) :
    afterPlain awaited c =
      if c = '\\' then ⟨.escaped, awaited⟩
      else if c = '/' then ⟨.slash, awaited⟩
      else ⟨.plain, (closing? c).toList ++ awaited⟩ := by
  rcases not_or.1 hquote with ⟨hdouble, hsingle⟩
  rw [afterPlain, if_neg hother, quote?, if_neg hdouble, if_neg hsingle]

/-- A quote that closes nothing opens a quoted text. -/
theorem afterPlain_of_quote {awaited : List Char} {c : Char} (hother : awaited.head? ≠ some c)
    (hquote : c = '"' ∨ c = '\'') :
    ∃ q : Quote, q.char = c ∧ afterPlain awaited c = ⟨.quoted q false, awaited⟩ := by
  rcases hquote with rfl | rfl
  · exact ⟨.double, rfl, if_neg hother⟩
  · exact ⟨.single, rfl, if_neg hother⟩

/-- A string that is closed leaves nothing of its own open. -/
theorem through_quoted {q : Quote} {escaped : Bool} {awaited cs : List Char}
    (h : quotedLength q.char escaped cs < cs.length) :
    (Nesting.mk (.quoted q escaped) awaited).through
      (cs.take (quotedLength q.char escaped cs)) = ⟨.plain, awaited⟩ := by
  induction escaped, cs using quotedLength.induct q.char with
  | case1 escaped => cases h
  | case2 c rest ih =>
      rw [quotedLength, Nat.add_comm] at h ⊢
      exact ih (Nat.lt_of_succ_lt_succ h)
  | case3 rest =>
      rw [quotedLength, if_pos rfl]
      show Nesting.mk (if q.char = q.char then .plain else _) awaited = _
      rw [if_pos rfl]
  | case4 rest hquote ih =>
      -- a backslash takes the next character with it
      rw [quotedLength, if_neg hquote, if_pos rfl, Nat.add_comm] at h ⊢
      have hafter : (Nesting.mk (.quoted q false) awaited).after '\\' =
          ⟨.quoted q true, awaited⟩ := by
        simp [after, hquote]
      rw [List.take_succ_cons, through_cons, hafter]
      exact ih (Nat.lt_of_succ_lt_succ h)
  | case5 c rest hquote hslash ih =>
      rw [quotedLength, if_neg hquote, if_neg hslash, Nat.add_comm] at h ⊢
      have hafter : (Nesting.mk (.quoted q false) awaited).after c =
          ⟨.quoted q false, awaited⟩ := by
        simp [after, hquote, hslash]
      rw [List.take_succ_cons, through_cons, hafter]
      exact ih (Nat.lt_of_succ_lt_succ h)

/-- A comment stays open up to its end. -/
theorem through_comment {body : List Char} {mode : Mode} (awaited : List Char)
    (hmode : mode = .comment ∨ mode = .star ∧ body.head? ≠ some '/')
    (h : ¬['*', '/'] <:+: body) :
    ∃ mode', (mode' = .comment ∨ mode' = .star) ∧
      (Nesting.mk mode awaited).through body = ⟨mode', awaited⟩ := by
  induction body generalizing mode with
  | nil => exact ⟨mode, hmode.imp_right And.left, rfl⟩
  | cons c body ih =>
      rw [List.infix_cons_iff, not_or] at h
      by_cases hstar : c = '*'
      · subst hstar
        have hafter : (Nesting.mk mode awaited).after '*' = ⟨.star, awaited⟩ := by
          rcases hmode with rfl | ⟨rfl, _⟩ <;> rfl
        rw [through_cons, hafter]
        -- a slash after the star would close the comment inside of the body
        refine ih (.inr ⟨rfl, fun hhead => h.1 ?_⟩) h.2
        rcases List.head?_eq_some_iff.1 hhead with ⟨rest, rfl⟩
        exact ⟨rest, rfl⟩
      · have hafter : (Nesting.mk mode awaited).after c = ⟨.comment, awaited⟩ := by
          rcases hmode with rfl | ⟨rfl, hclose⟩
          · exact congrArg (Nesting.mk · awaited) (if_neg hstar)
          · have hclose : c ≠ '/' := fun heq => hclose (congrArg some heq)
            simp [after, hstar, hclose]
        rw [through_cons, hafter]
        exact ih (.inl rfl) h.2

/-- A comment that is closed leaves nothing of its own open. -/
theorem through_closed_comment {body before after : List Char}
    (h : Text.cutAt? ['*', '/'] body = some (before, after)) (awaited : List Char) :
    (Nesting.mk .slash awaited).through
      (('*' :: body).take (('*' :: body).length - after.length)) = ⟨.plain, awaited⟩ := by
  rcases Text.cutAt?_eq_some_iff.1 h with ⟨rfl, hfirst⟩
  rw [← List.cons_append, List.length_append, Nat.add_sub_cancel, List.take_left]
  have hno : ¬['*', '/'] <:+: before := by
    rintro ⟨front, back, heq⟩
    have hle := hfirst front (back ++ ['*', '/'] ++ after) (by simp [← heq])
    have hlength := congrArg List.length heq
    simp only [List.length_append, List.length_cons] at hlength
    omega
  have hslash : (Nesting.mk .slash awaited).after '*' = ⟨.comment, awaited⟩ := rfl
  rcases through_comment awaited (.inl rfl) hno with ⟨mode, hmode, hbefore⟩
  rw [through_cons, hslash, through_append, hbefore]
  rcases hmode with rfl | rfl <;> rfl

end Nesting

/-- A part of a text ends outside of quotes, comments and brackets, where a character stops it. -/
def StopsAt (stops : Char → Bool) (p : Nesting) (cs : List Char) (n : Nat) : Prop :=
  n ≤ cs.length ∧
    ∀ c rest, cs.drop n = c :: rest →
      stops c = true ∧ (p.through (cs.take n)).Reads [] (cs.drop n)

theorem StopsAt.cons {stops : Char → Bool} {p : Nesting} {c : Char} {cs : List Char} {n : Nat}
    (h : StopsAt stops (p.after c) cs n) : StopsAt stops p (c :: cs) (1 + n) := by
  rw [Nat.add_comm]
  exact ⟨Nat.succ_le_succ h.1, h.2⟩

/-- A comment goes from `/*` to the first `*/` behind it, or to the end of the text. -/
theorem exists_comment {c : Char} {rest after : List Char}
    (h : afterComment? (c :: rest) = some after) :
    ∃ body, c = '/' ∧ rest = '*' :: body ∧
      after = ((Text.cutAt? ['*', '/'] body).map (·.2)).getD [] := by
  unfold afterComment? at h
  split at h
  · rename_i body heq
    cases heq
    cases h
    exact ⟨body, rfl, rfl, rfl⟩
  · cases h

/--
The reader passes a character, and a string, a comment or an escape that begins with it at once.
The nesting follows them character by character, and both are at the same place again behind them.
-/
theorem exists_extent_cons {stops : Char → Bool} {awaited rest : List Char} {c : Char}
    (hstop : ¬(awaited.isEmpty && stops c) = true) :
    ∃ awaited' skip,
      extent stops awaited 0 (c :: rest) = 1 + extent stops awaited' skip rest ∧
        (skip < rest.length →
          ((Nesting.afterPlain awaited c).through (rest.take skip)).Reads awaited'
            (rest.drop skip)) := by
  rw [extent, if_neg hstop]
  by_cases hcloses : awaited.head? = some c
  · refine ⟨awaited.drop 1, 0, if_pos hcloses, fun _ => ?_⟩
    rw [Nesting.afterPlain, if_pos hcloses]
    exact Nesting.reads_plain _ _
  · rw [if_neg hcloses]
    by_cases hquote : c = '"' ∨ c = '\''
    · refine ⟨awaited, quotedLength c false rest, if_pos hquote, fun hskip => ?_⟩
      rcases Nesting.afterPlain_of_quote hcloses hquote with ⟨q, rfl, hopen⟩
      rw [hopen, Nesting.through_quoted hskip]
      exact Nesting.reads_plain _ _
    · rw [if_neg hquote, Nesting.afterPlain_of_not_quote hcloses hquote]
      by_cases hslash : c = '\\'
      · refine ⟨awaited, 1, if_pos hslash, fun hskip => ?_⟩
        rw [if_pos hslash]
        cases rest with
        | nil => cases hskip
        | cons d rest => exact Nesting.reads_plain _ _
      · rw [if_neg hslash, if_neg hslash]
        cases hcomment : afterComment? (c :: rest) with
        | some after =>
            refine ⟨awaited, rest.length - after.length, rfl, fun hskip => ?_⟩
            rcases exists_comment hcomment with ⟨body, rfl, rfl, rfl⟩
            rw [if_pos rfl]
            cases hcut : Text.cutAt? ['*', '/'] body with
            | none => simp [hcut] at hskip
            | some found =>
                simp only [Option.map_some, Option.getD_some]
                rw [Nesting.through_closed_comment hcut]
                exact Nesting.reads_plain _ _
        | none =>
            by_cases hplain : c = '/'
            · -- a slash before a star would begin a comment
              subst hplain
              refine ⟨awaited, 0, rfl, fun _ => Nesting.reads_slash awaited fun hstar => ?_⟩
              rcases List.head?_eq_some_iff.1 hstar with ⟨more, rfl⟩
              cases hcomment
            · rw [if_neg hplain]
              cases hopens : closing? c with
              | some b => exact ⟨b :: awaited, 0, rfl, fun _ => Nesting.reads_plain _ _⟩
              | none => exact ⟨awaited, 0, rfl, fun _ => Nesting.reads_plain _ _⟩

/-- The extent ends at a character to stop at, with nothing open, or at the end of the text. -/
theorem stopsAt_extent (stops : Char → Bool) (awaited : List Char) (skip : Nat) (cs : List Char)
    (p : Nesting)
    (h : skip < cs.length → (p.through (cs.take skip)).Reads awaited (cs.drop skip)) :
    StopsAt stops p cs (extent stops awaited skip cs) := by
  induction cs generalizing awaited skip p with
  | nil =>
      rw [extent]
      exact ⟨Nat.le_refl 0, nofun⟩
  | cons c rest ih =>
      cases skip with
      | succ skip =>
          rw [extent]
          -- what is skipped is inside of a quotation or a comment, so no stop is looked for
          exact .cons (ih _ _ _ fun hskip => h (Nat.succ_lt_succ hskip))
      | zero =>
          have hreads : p.Reads awaited (c :: rest) := h (Nat.succ_pos _)
          by_cases hstop : (awaited.isEmpty && stops c) = true
          · rw [extent, if_pos hstop]
            rw [Bool.and_eq_true, List.isEmpty_iff] at hstop
            rcases hstop with ⟨rfl, hstop⟩
            refine ⟨Nat.zero_le _, ?_⟩
            rintro _ _ ⟨⟩
            exact ⟨hstop, hreads⟩
          · -- the character is passed, with what it opens or closes
            rcases exists_extent_cons hstop with ⟨awaited', skip, hpassed, hnext⟩
            rw [hpassed]
            refine .cons (ih _ _ _ ?_)
            rw [hreads.after c rfl]
            exact hnext

/-- Where the reader ends a part of a selector, no quotes and no brackets are open. -/
theorem outside_of_extent {stops : Char → Bool} {cs rest : List Char} {c : Char}
    (h : cs.drop (extent stops [] 0 cs) = c :: rest) :
    stops c = true ∧ Outside (cs.take (extent stops [] 0 cs)) := by
  have hstops := stopsAt_extent stops [] 0 cs .start fun _ => Nesting.reads_plain _ _
  rcases hstops.2 c rest h with ⟨hstop, hreads⟩
  refine ⟨hstop, ?_, ?_⟩
  · rcases hreads.mode with hmode | hmode <;> rw [hmode] <;> rfl
  · rw [hreads.brackets]
    exact List.not_mem_nil

end Selector
end Gleaner
