import Gleaner.Proofs.Template.Form
import Gleaner.Proofs.XPath.Erasure
/-!
# Gaps in paths

A gap of a path is filled with a complete string expression. Where it stands outside of literals and
not directly after a name, the value leaves no trace once string expressions are erased. Anywhere
else some two values leave different traces.

* `Sheltered` says where the gaps of a form stand;
* `after_fill_of_sheltered`: sheltered values make no difference to the pass;
* `Ahead` compares two runs of the pass, the second of which has met more of some character outside
  of string expressions; `Ahead.next` and `Ahead.next_other` are its steps;
* `ahead_of_inside`, `ahead_of_joined`: values in a literal, or after a name, make a difference;
* `sameErasure_iff`: the three together.
-/

namespace Gleaner
namespace Template

open XPath (Symbol Scan literalNext isNamePart endsInName beforeWord? beforeCall? closed erased)

/-! ## Where the gaps stand -/

/-- Whether a name goes on after one more character. -/
def nameNext (inName : Bool) (c : Char) : Bool :=
  isNamePart c && (Xml.isNameStart c || inName)

/-- No gap stands in a literal or directly after a name. -/
def Sheltered : (quote : Option Char) → (inName : Bool) → Form → Prop
  | _, _, [] => True
  | q, n, some c :: rest => Sheltered (literalNext q c) (nameNext n c) rest
  | q, n, none :: rest => q = none ∧ n = false ∧ Sheltered none false rest

instance decidableSheltered :
    ∀ (q : Option Char) (n : Bool) (form : Form), Decidable (Sheltered q n form)
  | _, _, [] => isTrue trivial
  | q, n, some c :: rest => decidableSheltered (literalNext q c) (nameNext n c) rest
  | _, _, none :: rest =>
    have := decidableSheltered none false rest
    inferInstanceAs (Decidable (_ ∧ _ ∧ _))

/-- The state of the pass, as far as it decides about gaps. -/
def Tracks (q : Option Char) (n : Bool) : Scan → Prop
  | .outside symbols => q = none ∧ endsInName symbols = n
  | .inside p _ _ => q = some p ∧ isQuote p = true

/-- No name ends in a closing parenthesis. -/
theorem endsInName_closed (symbols : List Symbol) : endsInName (closed symbols) = false := by
  unfold closed
  split
  · rfl
  · have hparen : isNamePart ')' = false := by decide
    simp [endsInName, hparen]

theorem isNamePart_of_isQuote {q : Char} (h : isQuote q = true) : isNamePart q = false := by
  rcases isQuote_iff.1 h with rfl | rfl
  · decide
  · decide

/-- The two states go on with the pass. -/
theorem Tracks.next {q : Option Char} {n : Bool} {s : Scan} (h : Tracks q n s) (c : Char) :
    Tracks (literalNext q c) (nameNext n c) (s.next c) := by
  cases s with
  | outside symbols =>
      rcases h with ⟨rfl, rfl⟩
      by_cases hquote : isQuote c = true
      · simp [Scan.next, literalNext, hquote, Tracks]
      · have hstay : literalNext none c = none := by simp [literalNext, hquote]
        rw [Scan.next, if_neg hquote, hstay]
        by_cases hparen : c = ')'
        · -- a closing parenthesis ends no name, whether it ends a call or not
          have hend : nameNext (endsInName symbols) ')' = false := by
            have hpart : isNamePart ')' = false := by decide
            simp [nameNext, hpart]
          rw [if_pos hparen, hparen, hend]
          exact ⟨rfl, endsInName_closed symbols⟩
        · rw [if_neg hparen]
          exact ⟨rfl, rfl⟩
  | inside p content symbols =>
      rcases h with ⟨rfl, hp⟩
      by_cases hc : c = p
      · have hend : nameNext n p = false := by simp [nameNext, isNamePart_of_isQuote hp]
        simp [Scan.next, literalNext, hc, Tracks, hend, endsInName]
      · simpa [Scan.next, literalNext, hc, Tracks] using hp

/-! ## Sheltered values -/

/-- A sheltered value leaves one mark, whatever it is. -/
theorem after_value {s : Scan} (h : Tracks none false s) :
    ∃ symbols, ∀ value, s.after (XPath.literalChars value) = .outside (.expression :: symbols) := by
  cases s with
  | outside symbols =>
      refine ⟨symbols, fun value => ?_⟩
      exact XPath.after_stringExpression (XPath.stringExpression_literalChars value) h.2
  | inside p content symbols => cases h.1

/-- Sheltered values make no difference to the pass. -/
theorem after_fill_of_sheltered {form : Form} {q : Option Char} {n : Bool}
    (hform : Sheltered q n form) {s : Scan} (hs : Tracks q n s) (v₁ v₂ : List Char) :
    s.after (form.fill (XPath.literalChars v₁)) = s.after (form.fill (XPath.literalChars v₂)) := by
  induction form generalizing q n s with
  | nil => rfl
  | cons c form ih =>
      cases c with
      | some c => exact ih hform (hs.next c)
      | none =>
          rcases hform with ⟨rfl, rfl, hrest⟩
          rcases after_value hs with ⟨symbols, hsymbols⟩
          rw [Form.fill_gap, Form.fill_gap, Scan.after_append, Scan.after_append, hsymbols,
            hsymbols]
          exact ih hrest ⟨rfl, rfl⟩

/-! ## Symbols that end no call -/

/-- The symbols behind which the pass never looks. -/
def blocks : Symbol → Bool
  | .char c => c == '#' || c == '%' || c == ')'
  | .expression => false

/-- The last symbol, if there is one, is a symbol behind which the pass never looks. -/
def Blocked (symbols : List Symbol) : Prop :=
  ∀ s ∈ symbols.head?, blocks s = true

theorem blocked_nil : Blocked [] := nofun

theorem blocked_cons {s : Symbol} (hs : blocks s = true) (symbols : List Symbol) :
    Blocked (s :: symbols) := by
  intro t ht
  cases ht
  exact hs

theorem blocks_cases {c : Char} (h : blocks (.char c) = true) : c = '#' ∨ c = '%' ∨ c = ')' := by
  simpa [blocks, or_assoc] using h

/-- No name ends in a symbol behind which the pass never looks. -/
theorem endsInName_blocked {symbols : List Symbol} (h : Blocked symbols) :
    endsInName symbols = false := by
  match symbols with
  | [] => rfl
  | .expression :: _ => rfl
  | .char c :: _ =>
      have hpart : isNamePart c = false := by
        rcases blocks_cases (h _ rfl) with rfl | rfl | rfl
        · decide
        · decide
        · decide
      simp [endsInName, hpart]

/-- Whether the symbols end in a name is seen before a blocking one is reached. -/
theorem endsInName_append (front : List Symbol) {back : List Symbol} (h : Blocked back) :
    endsInName (front ++ back) = endsInName front := by
  induction front with
  | nil => exact endsInName_blocked h
  | cons s front ih =>
      cases s with
      | expression => rfl
      | char c => simp only [List.cons_append, endsInName, ih]

/-- A word is found, or not, in front of the symbols that block. -/
theorem beforeWord?_append {word : List Char} (hword : ∀ w ∈ word, blocks (.char w) = false)
    (front : List Symbol) :
    ∃ found : Option (List Symbol), ∀ back, Blocked back →
      beforeWord? word (front ++ back) = found.map (· ++ back) := by
  induction word generalizing front with
  | nil => exact ⟨some front, fun back _ => rfl⟩
  | cons w word ih =>
      match front with
      | [] =>
          -- the word would go on with a symbol that blocks, and no letter of it does
          refine ⟨none, fun back hback => ?_⟩
          match back with
          | [] => rfl
          | .expression :: _ => rfl
          | .char c :: back =>
              have hc : w ≠ c := by
                rintro rfl
                have hno := hword w List.mem_cons_self
                rw [hback _ rfl] at hno
                cases hno
              simp [beforeWord?, hc]
      | .expression :: front => exact ⟨none, fun back _ => rfl⟩
      | .char c :: front =>
          by_cases hc : w = c
          · rcases ih (fun v hv => hword v (List.mem_cons_of_mem w hv)) front with ⟨found, hfound⟩
            exact ⟨found, fun back hback => by simpa [beforeWord?, hc] using hfound back hback⟩
          · exact ⟨none, fun back _ => by simp [beforeWord?, hc]⟩

/-- A call is found, or not, in front of the symbols that block. -/
theorem beforeCall?_append (afterArgument : Bool) (front : List Symbol) :
    ∃ found : Option (List Symbol), ∀ back, Blocked back →
      beforeCall? afterArgument (front ++ back) = found.map (· ++ back) := by
  induction front generalizing afterArgument with
  | nil =>
      -- a symbol that blocks is no part of a call, so the search ends there
      refine ⟨none, fun back hback => ?_⟩
      match back with
      | [] => cases afterArgument <;> rfl
      | .expression :: _ =>
          have hno := hback _ rfl
          cases hno
      | .char c :: back =>
          rcases blocks_cases (hback _ rfl) with rfl | rfl | rfl
          · cases afterArgument <;> simp [beforeCall?, Xml.isSpace]
          · cases afterArgument <;> simp [beforeCall?, Xml.isSpace]
          · cases afterArgument <;> simp [beforeCall?, Xml.isSpace]
  | cons s front ih =>
      cases s with
      | expression =>
          cases afterArgument with
          | false => exact ih true
          | true => exact ⟨none, fun back _ => rfl⟩
      | char c =>
          by_cases hspace : Xml.isSpace c = true
          · rcases ih afterArgument with ⟨found, hfound⟩
            refine ⟨found, fun back hback => ?_⟩
            simpa [beforeCall?, hspace] using hfound back hback
          · by_cases hcomma : (afterArgument && c == ',') = true
            · rcases ih false with ⟨found, hfound⟩
              refine ⟨found, fun back hback => ?_⟩
              simpa [beforeCall?, hspace, hcomma] using hfound back hback
            · by_cases hparen : (afterArgument && c == '(') = true
              · have hword : ∀ w ∈ ['t', 'a', 'c', 'n', 'o', 'c'], blocks (.char w) = false := by
                  simp [blocks]
                rcases beforeWord?_append hword front with ⟨found, hfound⟩
                refine ⟨found.filter fun rest => !endsInName rest, fun back hback => ?_⟩
                rw [List.cons_append, beforeCall?, if_neg hspace, if_neg hcomma, if_pos hparen,
                  hfound back hback]
                cases found with
                | none => rfl
                | some rest => simp [Option.filter, endsInName_append rest hback, apply_ite]
              · refine ⟨none, fun back _ => ?_⟩
                simp [beforeCall?, hspace, hcomma, hparen]

/-- A closing parenthesis changes nothing from a blocking symbol on. -/
theorem closed_append (front : List Symbol) :
    ∃ front', ∀ back, Blocked back → closed (front ++ back) = front' ++ back := by
  rcases beforeCall?_append false front with ⟨found, hfound⟩
  cases found with
  | none =>
      refine ⟨.char ')' :: front, fun back hback => ?_⟩
      simp [closed, hfound back hback]
  | some before =>
      refine ⟨.expression :: before, fun back hback => ?_⟩
      simp [closed, hfound back hback]

/-! ## Comparing two runs -/

def occurrences (x : Char) (symbols : List Symbol) : Nat :=
  symbols.count (.char x)

/-- What remains of the symbols holds a character as often as they do. -/
theorem count_remaining (x : Char) (symbols : List Symbol) :
    (Scan.finished.remaining symbols).count x = occurrences x symbols := by
  induction symbols with
  | nil => rfl
  | cons s symbols ih =>
      cases s with
      | char c =>
          have hlast : Scan.finished.remaining (.char c :: symbols) =
              Scan.finished.remaining symbols ++ [c] := by simp [Scan.finished.remaining]
          rw [hlast, List.count_append, ih, occurrences, occurrences, List.count_cons]
          simp [List.count_cons]
      | expression =>
          have hlast : Scan.finished.remaining (.expression :: symbols) =
              Scan.finished.remaining symbols := by simp [Scan.finished.remaining]
          rw [hlast, ih, occurrences, occurrences, List.count_cons]
          simp

/--
Symbols of two runs: the same ones after the last symbol that blocks, and before it in the second
run at least `d` more occurrences of `x`.
-/
def FewerIn (x : Char) (d : Nat) (symbols₁ symbols₂ : List Symbol) : Prop :=
  ∃ front back₁ back₂, symbols₁ = front ++ back₁ ∧ symbols₂ = front ++ back₂ ∧
    Blocked back₁ ∧ Blocked back₂ ∧ occurrences x back₁ + d ≤ occurrences x back₂

namespace FewerIn

variable {x : Char} {d : Nat} {symbols₁ symbols₂ : List Symbol}

/-- A state is level with itself. -/
theorem same (symbols : List Symbol) : FewerIn x 0 symbols symbols :=
  ⟨symbols, [], [], by simp, by simp, blocked_nil, blocked_nil, Nat.le_refl _⟩

theorem push (h : FewerIn x d symbols₁ symbols₂) (s : Symbol) :
    FewerIn x d (s :: symbols₁) (s :: symbols₂) := by
  rcases h with ⟨front, back₁, back₂, rfl, rfl, h₁, h₂, hcount⟩
  exact ⟨s :: front, back₁, back₂, rfl, rfl, h₁, h₂, hcount⟩

/-- A closing parenthesis leaves the second run ahead. -/
theorem closed (h : FewerIn x d symbols₁ symbols₂) :
    FewerIn x d (XPath.closed symbols₁) (XPath.closed symbols₂) := by
  rcases h with ⟨front, back₁, back₂, rfl, rfl, h₁, h₂, hcount⟩
  rcases closed_append front with ⟨front', hfront⟩
  exact ⟨front', back₁, back₂, hfront back₁ h₁, hfront back₂ h₂, h₁, h₂, hcount⟩

/-- The second run has as many more occurrences as it is ahead. -/
theorem occurrences_le (h : FewerIn x d symbols₁ symbols₂) :
    occurrences x symbols₁ + d ≤ occurrences x symbols₂ := by
  rcases h with ⟨front, back₁, back₂, rfl, rfl, _, _, hcount⟩
  simp only [occurrences, List.count_append] at hcount ⊢
  omega

/-- Two symbols that block, in place of one. -/
theorem block (h : FewerIn x d symbols₁ symbols₂) {more₁ more₂ : List Symbol} {k : Nat}
    (h₁ : Blocked (more₁ ++ symbols₁)) (h₂ : Blocked (more₂ ++ symbols₂))
    (hmore : occurrences x more₁ + k ≤ occurrences x more₂) :
    FewerIn x (d + k) (more₁ ++ symbols₁) (more₂ ++ symbols₂) := by
  have hcount := h.occurrences_le
  refine ⟨[], more₁ ++ symbols₁, more₂ ++ symbols₂, rfl, rfl, h₁, h₂, ?_⟩
  simp only [occurrences, List.count_append] at hcount hmore ⊢
  omega

end FewerIn

/-- Two states of the pass in the same literal, if in any, of which the second is ahead by `d`. -/
inductive Ahead (x : Char) (d : Nat) : Scan → Scan → Prop where
  | outside {symbols₁ symbols₂ : List Symbol} :
      FewerIn x d symbols₁ symbols₂ → Ahead x d (.outside symbols₁) (.outside symbols₂)
  | inside {q : Char} {content₁ content₂ : List Char} {symbols₁ symbols₂ : List Symbol} :
      isQuote q = true → content₁.count x ≤ content₂.count x → FewerIn x d symbols₁ symbols₂ →
        Ahead x d (.inside q content₁ symbols₁) (.inside q content₂ symbols₂)

namespace Ahead

variable {x : Char} {d : Nat} {s₁ s₂ : Scan}

theorem same {q : Option Char} {n : Bool} {s : Scan} (h : Tracks q n s) : Ahead x 0 s s := by
  cases s with
  | outside symbols => exact .outside (.same symbols)
  | inside p content symbols => exact .inside h.2 (Nat.le_refl _) (.same symbols)

/-- The same character in both runs. -/
theorem next (h : Ahead x d s₁ s₂) (c : Char) : Ahead x d (s₁.next c) (s₂.next c) := by
  cases h with
  | outside h =>
      by_cases hquote : isQuote c = true
      · simpa [Scan.next, hquote] using Ahead.inside hquote (Nat.le_refl _) h
      · rw [Scan.next, Scan.next, if_neg hquote, if_neg hquote]
        by_cases hparen : c = ')'
        · -- both runs end a call, or neither does
          rw [if_pos hparen, if_pos hparen]
          exact .outside h.closed
        · rw [if_neg hparen, if_neg hparen]
          exact .outside (h.push _)
  | @inside q content₁ content₂ _ _ hq hcontent h =>
      by_cases hc : c = q
      · simpa [Scan.next, hc] using Ahead.outside (h.push .expression)
      · rw [Scan.next, Scan.next, if_neg hc, if_neg hc]
        refine .inside hq ?_ h
        rw [List.count_cons, List.count_cons]
        omega

/-- The second run stays ahead over a text that both read. -/
theorem after (h : Ahead x d s₁ s₂) (cs : List Char) : Ahead x d (s₁.after cs) (s₂.after cs) := by
  induction cs generalizing s₁ s₂ with
  | nil => exact h
  | cons c cs ih => exact ih (h.next c)

/-- The second run is ahead at the end. -/
theorem count_finished (h : Ahead x d s₁ s₂) : s₁.finished.count x + d ≤ s₂.finished.count x := by
  cases h with
  | outside h =>
      rw [Scan.finished, Scan.finished, count_remaining, count_remaining]
      exact h.occurrences_le
  | inside hq hcontent h =>
      have hsymbols := h.occurrences_le
      rw [Scan.finished, Scan.finished, List.count_append, List.count_append, count_remaining,
        count_remaining, List.count_cons, List.count_cons, List.count_reverse, List.count_reverse]
      omega

end Ahead

/-! ## Values in literals -/

/-- A value that is written between double quotes and holds the other quote. -/
def quoted (c : Char) : List Char :=
  [c, '\'', c]

theorem literalChars_quoted {c : Char} (hc : c ≠ '"') :
    XPath.literalChars (quoted c) = ['"', c, '\'', c, '"'] := by
  simp [XPath.literalChars, quoted, hc.symm]

/-- Two characters that block: the second run gets ahead where they stand outside of literals. -/
theorem Ahead.next_other {d : Nat} {s₁ s₂ : Scan} (h : Ahead '%' d s₁ s₂) :
    ∃ d', d ≤ d' ∧ (s₁.quote? = none → d < d') ∧ Ahead '%' d' (s₁.next '#') (s₂.next '%') := by
  cases h with
  | @outside symbols₁ symbols₂ h =>
      -- outside of literals the characters stay, and one of them is counted
      have h₁ : Blocked ([.char '#'] ++ symbols₁) := blocked_cons rfl symbols₁
      have h₂ : Blocked ([.char '%'] ++ symbols₂) := blocked_cons rfl symbols₂
      exact ⟨d + 1, Nat.le_succ d, fun _ => Nat.lt_succ_self d,
        .outside (h.block h₁ h₂ (by decide))⟩
  | @inside q content₁ content₂ _ _ hq hcontent h =>
      have hhash : '#' ≠ q := by
        rintro rfl
        cases hq
      have hpercent : '%' ≠ q := by
        rintro rfl
        cases hq
      refine ⟨d, Nat.le_refl d, nofun, ?_⟩
      rw [Scan.next, Scan.next, if_neg hhash, if_neg hpercent]
      refine .inside hq ?_ h
      rw [List.count_cons, List.count_cons]
      simp
      omega

/-- A state that is ahead stands outside of literals or in one of either kind. -/
theorem Ahead.isQuote_quote? {x : Char} {d : Nat} {s₁ s₂ : Scan} (h : Ahead x d s₁ s₂) :
    s₁.quote? = none ∨ s₁.quote? = some '"' ∨ s₁.quote? = some '\'' := by
  cases h with
  | outside _ => exact .inl rfl
  | inside hq _ _ =>
      rcases isQuote_iff.1 hq with rfl | rfl
      · exact .inr (.inl rfl)
      · exact .inr (.inr rfl)

/-- The second run gets ahead at a value in a literal, and does not fall back at any other. -/
theorem Ahead.after_quoted {d : Nat} {s₁ s₂ : Scan} (h : Ahead '%' d s₁ s₂) :
    ∃ d', d ≤ d' ∧ (s₁.quote? ≠ none → d < d') ∧
      Ahead '%' d' (s₁.after (XPath.literalChars (quoted '#')))
        (s₂.after (XPath.literalChars (quoted '%'))) := by
  rw [literalChars_quoted (by decide), literalChars_quoted (by decide)]
  rcases (h.next '"').next_other with ⟨d₁, hd₁, hfirst, h₁⟩
  rcases (h₁.next '\'').next_other with ⟨d₂, hd₂, hsecond, h₂⟩
  refine ⟨d₂, Nat.le_trans hd₁ hd₂, ?_, h₂.next '"'⟩
  intro hopen
  simp only [Scan.quote?_next] at hfirst hsecond
  rcases h.isQuote_quote? with hnone | hquote | hapostrophe
  · exact absurd hnone hopen
  · -- the first quote of the value closes the literal
    rw [hquote] at hfirst
    exact Nat.lt_of_lt_of_le (hfirst rfl) hd₂
  · -- the apostrophe in the value closes the literal
    rw [hapostrophe] at hsecond
    exact Nat.lt_of_le_of_lt hd₁ (hsecond rfl)

/-- Filled with `%` instead of `#`, a form keeps the second run ahead, if not further. -/
theorem Ahead.fill_quoted (form : Form) {d : Nat} {s₁ s₂ : Scan} (h : Ahead '%' d s₁ s₂) :
    ∃ d', d ≤ d' ∧ Ahead '%' d' (s₁.after (form.fill (XPath.literalChars (quoted '#'))))
      (s₂.after (form.fill (XPath.literalChars (quoted '%')))) := by
  induction form generalizing d s₁ s₂ with
  | nil => exact ⟨d, Nat.le_refl d, h⟩
  | cons c form ih =>
      cases c with
      | some c => exact ih (h.next c)
      | none =>
          rcases h.after_quoted with ⟨d₁, hd₁, _, h₁⟩
          rcases ih h₁ with ⟨d₂, hd₂, h₂⟩
          refine ⟨d₂, Nat.le_trans hd₁ hd₂, ?_⟩
          rwa [Form.fill_gap, Form.fill_gap, Scan.after_append, Scan.after_append]

/-- No gap stands in a literal. -/
def OutsideLiterals : (quote : Option Char) → Form → Prop
  | _, [] => True
  | q, some c :: rest => OutsideLiterals (literalNext q c) rest
  | q, none :: rest => q = none ∧ OutsideLiterals none rest

/-- A gap in a literal gets the second run ahead. -/
theorem ahead_of_inside {form : Form} {q : Option Char} (hform : ¬ OutsideLiterals q form)
    {n : Bool} {s : Scan} (hs : Tracks q n s) :
    ∃ d, 0 < d ∧ Ahead '%' d (s.after (form.fill (XPath.literalChars (quoted '#'))))
      (s.after (form.fill (XPath.literalChars (quoted '%')))) := by
  induction form generalizing q n s with
  | nil => exact absurd trivial hform
  | cons c form ih =>
      cases c with
      | some c => exact ih hform (hs.next c)
      | none =>
          rw [Form.fill_gap, Form.fill_gap, Scan.after_append, Scan.after_append]
          cases s with
          | outside symbols =>
              -- outside of literals both values are literals and leave the same mark
              have hmark : ∀ c : Char, c ≠ '"' →
                  (Scan.outside symbols).after (XPath.literalChars (quoted c)) =
                    .outside (.expression :: symbols) := by
                intro c hc
                have hclosed : '"' ∉ quoted c := by simp [quoted, hc.symm]
                rw [literalChars_quoted hc]
                exact XPath.after_literal ⟨'"', quoted c, rfl, hclosed⟩ symbols
              rw [hmark '#' (by decide), hmark '%' (by decide)]
              have hmarked : Tracks none false (.outside (.expression :: symbols)) := ⟨rfl, rfl⟩
              exact ih (fun hrest => hform ⟨hs.1, hrest⟩) hmarked
          | inside p content symbols =>
              -- here the second run gets ahead, and it stays so for the rest of the form
              rcases (Ahead.same hs).after_quoted with ⟨d₁, _, hd₁, h₁⟩
              rcases h₁.fill_quoted form with ⟨d₂, hd₂, h₂⟩
              exact ⟨d₂, Nat.lt_of_lt_of_le (hd₁ nofun) hd₂, h₂⟩

/-! ## Values after names -/

/-- A value with both quotes, which takes two arguments to write. -/
def twoArguments : List Char :=
  ['"', '\'']

/-- A value with both quotes, which takes three arguments to write. -/
def threeArguments : List Char :=
  ['"', '\'', '"']

/-- What remains of a call with two arguments whose name goes on with another name. -/
def twoMarks : List Symbol :=
  [.char ')', .expression, .char ' ', .char ',', .expression] ++
    XPath.concatOpening.reverse.map .char

/-- What remains of a call with three arguments whose name goes on with another name. -/
def threeMarks : List Symbol :=
  [.char ')', .expression, .char ' ', .char ',', .expression, .char ' ', .char ',', .expression] ++
    XPath.concatOpening.reverse.map .char

/-- Behind a name, the call that writes a value as two arguments is not taken for one. -/
theorem after_twoArguments {symbols : List Symbol} (h : endsInName symbols = true) :
    (Scan.outside symbols).after (XPath.literalChars twoArguments) =
      .outside (twoMarks ++ symbols) := by
  have htext : XPath.literalChars twoArguments =
      XPath.concatOpening ++ ['\'', '"', '\'', ',', ' ', '"', '\'', '"', ')'] := by
    decide +kernel
  rw [htext]
  simp [Scan.after, Scan.next, XPath.concatOpening, isQuote, closed, beforeCall?, beforeWord?,
    Xml.isSpace, Option.filter, h, twoMarks]

/-- The same for a value that is written as three arguments. -/
theorem after_threeArguments {symbols : List Symbol} (h : endsInName symbols = true) :
    (Scan.outside symbols).after (XPath.literalChars threeArguments) =
      .outside (threeMarks ++ symbols) := by
  have htext : XPath.literalChars threeArguments =
      XPath.concatOpening ++
        ['\'', '"', '\'', ',', ' ', '"', '\'', '"', ',', ' ', '\'', '"', '\'', ')'] := by
    decide +kernel
  rw [htext]
  simp [Scan.after, Scan.next, XPath.concatOpening, isQuote, closed, beforeCall?, beforeWord?,
    Xml.isSpace, Option.filter, h, threeMarks]

/-- A gap after a name gets the second run ahead, and no other gap makes it fall back. -/
theorem ahead_of_joined {form : Form} {q : Option Char} {n : Bool} (hform : OutsideLiterals q form)
    {d : Nat} {s₁ s₂ : Scan} (hs₁ : Tracks q n s₁) (hs₂ : Tracks q n s₂) (h : Ahead ',' d s₁ s₂) :
    ∃ d', d ≤ d' ∧ (¬ Sheltered q n form → d < d') ∧
      Ahead ',' d' (s₁.after (form.fill (XPath.literalChars twoArguments)))
        (s₂.after (form.fill (XPath.literalChars threeArguments))) := by
  induction form generalizing q n d s₁ s₂ with
  | nil => exact ⟨d, Nat.le_refl d, fun hnot => absurd trivial hnot, h⟩
  | cons c form ih =>
      cases c with
      | some c => exact ih hform (hs₁.next c) (hs₂.next c) (h.next c)
      | none =>
          rcases hform with ⟨rfl, hrest⟩
          cases h with
          | inside _ _ _ => cases hs₁.1
          | @outside symbols₁ symbols₂ h =>
              rw [Form.fill_gap, Form.fill_gap, Scan.after_append, Scan.after_append]
              cases n with
              | false =>
                  -- both values leave the same mark
                  have hfirst := XPath.after_stringExpression
                    (XPath.stringExpression_literalChars twoArguments) hs₁.2
                  have hsecond := XPath.after_stringExpression
                    (XPath.stringExpression_literalChars threeArguments) hs₂.2
                  have ht₁ : Tracks none false (.outside (.expression :: symbols₁)) := ⟨rfl, rfl⟩
                  have ht₂ : Tracks none false (.outside (.expression :: symbols₂)) := ⟨rfl, rfl⟩
                  rw [hfirst, hsecond]
                  rcases ih hrest ht₁ ht₂ (.outside (h.push .expression)) with
                    ⟨d', hd, hless, hahead⟩
                  exact ⟨d', hd, fun hnot => hless fun hmore => hnot ⟨rfl, rfl, hmore⟩, hahead⟩
              | true =>
                  -- the name goes on with `concat`, so neither call is one
                  rw [after_twoArguments hs₁.2, after_threeArguments hs₂.2]
                  have h₁ : Blocked (twoMarks ++ symbols₁) := blocked_cons rfl _
                  have h₂ : Blocked (threeMarks ++ symbols₂) := blocked_cons rfl _
                  have hmarks : FewerIn ',' (d + 1) (twoMarks ++ symbols₁)
                      (threeMarks ++ symbols₂) := h.block h₁ h₂ (by decide)
                  have ht₁ : Tracks none false (.outside (twoMarks ++ symbols₁)) :=
                    ⟨rfl, endsInName_blocked h₁⟩
                  have ht₂ : Tracks none false (.outside (threeMarks ++ symbols₂)) :=
                    ⟨rfl, endsInName_blocked h₂⟩
                  rcases ih hrest ht₁ ht₂ (.outside hmarks) with ⟨d', hd, _, hahead⟩
                  exact ⟨d', by omega, fun _ => by omega, hahead⟩

/-! ## The exact condition -/

/-- Runs of which one is ahead leave different texts. -/
theorem erased_ne_of_ahead {x : Char} {d : Nat} {a b : List Char} (hd : 0 < d)
    (h : Ahead x d ((Scan.outside []).after a) ((Scan.outside []).after b)) :
    erased a ≠ erased b := by
  intro heq
  have hcount := h.count_finished
  rw [erased, erased] at heq
  rw [heq] at hcount
  omega

/--
Any two values leave the same path, apart from string expressions, exactly when no gap stands in a
literal or directly after a name.
-/
theorem sameErasure_iff (form : Form) :
    (∀ v₁ v₂ : List Char, erased (form.fill (XPath.literalChars v₁)) =
      erased (form.fill (XPath.literalChars v₂))) ↔ Sheltered none false form := by
  have hstart : Tracks none false (.outside []) := ⟨rfl, rfl⟩
  constructor
  · intro hlaw
    refine Classical.byContradiction fun hnot => ?_
    by_cases houtside : OutsideLiterals none form
    · -- some gap stands after a name, where the longer call leaves one more comma
      rcases ahead_of_joined houtside hstart hstart (Ahead.same hstart) with ⟨d, _, hd, hahead⟩
      exact erased_ne_of_ahead (hd hnot) hahead (hlaw _ _)
    · -- some gap stands in a literal, which the value ends early
      rcases ahead_of_inside houtside hstart with ⟨d, hd, hahead⟩
      exact erased_ne_of_ahead hd hahead (hlaw _ _)
  · -- sheltered values leave the pass in the same state
    intro hform v₁ v₂
    rw [erased, erased, after_fill_of_sheltered hform hstart v₁ v₂]

end Template
end Gleaner
