import Gleaner.Query.Lexer
/-!
# How far a token reaches

A token other than a string literal ends before a quote, a backslash or a bracket, and what follows
such a character is not looked at.

* `EndsTokens` are the characters that no token has after its first one;
* `Halts f` says of a function `f` that measures the front of a text that it stops before them; the
  lengths of names and numerals are measures of this kind;
* `Found` lists the tokens that are found at a character, one by one;
* `scan_append_stop`, `not_mem_of_scan`: the scanner stops before such a character.
-/

namespace Gleaner
namespace Query

/-- The characters of which tokens other than string literals are made: no quote, no backslash. -/
def IsPlain (c : Char) : Prop :=
  c ≠ '"' ∧ c ≠ '\\'

/-- A test tells characters apart. -/
theorem ne_of_test {p : Char → Bool} {c d : Char} (hc : p c = true) (hd : p d = false) : c ≠ d := by
  rintro rfl
  rw [hc] at hd
  cases hd

/-- A test that fails for a quote and for a backslash holds of plain characters only. -/
theorem isPlain_of_test {p : Char → Bool} (hquote : p '"' = false) (hslash : p '\\' = false)
    (c : Char) (h : p c = true) : IsPlain c :=
  ⟨ne_of_test h hquote, ne_of_test h hslash⟩

/-! ## Characters that end tokens -/

/-- A character that no token but a string literal has after its first one. -/
def EndsTokens (d : Char) : Prop :=
  Text.isNameChar d = false ∧ d ∉ ['.', '+', '-', '=', '/']

instance (d : Char) : Decidable (EndsTokens d) :=
  inferInstanceAs (Decidable (_ ∧ _))

theorem endsTokens_quote : EndsTokens '"' := by decide

theorem endsTokens_backslash : EndsTokens '\\' := by decide

theorem endsTokens_bracket : EndsTokens '[' := by decide

namespace EndsTokens

variable {d : Char} (hd : EndsTokens d)

include hd

theorem isDigit : d.isDigit = false := by
  have hname := hd.1
  simp only [Text.isNameChar, Char.isAlphanum, Bool.or_eq_false_iff] at hname
  exact hname.1.2

theorem isNameStart : Text.isNameStart d = false := by
  cases hstart : Text.isNameStart d with
  | false => rfl
  | true => exact (Text.isNameChar_of_isNameStart hstart).symm.trans hd.1

theorem ne {c : Char} (hc : ¬EndsTokens c) : d ≠ c := by
  rintro rfl
  exact hc hd

theorem contains (cs : List Char) (hcs : cs.all fun c => ¬EndsTokens c) :
    cs.contains d = false := by
  cases h : cs.contains d with
  | false => rfl
  | true =>
      have hnot := List.all_eq_true.1 hcs d (List.contains_iff_mem.1 h)
      exact absurd hd (of_decide_eq_true hnot)

end EndsTokens

/-! ## Measures of the front of a text -/

/-- A measure of the front of a text that does not see past a character at which tokens end. -/
structure Halts (f : List Char → Nat) : Prop where
  le_length : ∀ cs, f cs ≤ cs.length
  append_stop : ∀ {d : Char}, EndsTokens d → ∀ cs more : List Char, f (cs ++ d :: more) = f cs

/-- A run of characters does not see past a character that ends it. -/
theorem takeWhile_append_stop {p : Char → Bool} {d : Char} (hd : p d = false)
    (cs more : List Char) : (cs ++ d :: more).takeWhile p = cs.takeWhile p := by
  induction cs with
  | nil => simp [hd]
  | cons c cs ih =>
      cases hc : p c with
      | false => simp [hc]
      | true => simpa [hc] using ih

namespace Halts

variable {f g : List Char → Nat} {p : Char → Bool}

theorem takeWhile (hp : ∀ {d : Char}, EndsTokens d → p d = false) :
    Halts fun cs => (cs.takeWhile p).length where
  le_length _ := (List.takeWhile_prefix p).length_le
  append_stop hd cs more := congrArg List.length (takeWhile_append_stop (hp hd) cs more)

/-- The second measure goes on where the first one stops. -/
theorem andThen (hf : Halts f) (hg : Halts g) : Halts fun cs => f cs + g (cs.drop (f cs)) where
  le_length cs := by
    have hfirst := hf.le_length cs
    have hsecond := hg.le_length (cs.drop (f cs))
    rw [List.length_drop] at hsecond
    show f cs + g (cs.drop (f cs)) ≤ cs.length
    omega
  append_stop {d} hd cs more := by
    show f (cs ++ d :: more) + g ((cs ++ d :: more).drop (f (cs ++ d :: more))) = _
    rw [hf.append_stop hd, List.drop_append_of_le_length (hf.le_length cs), hg.append_stop hd]

/-- One more character at the front, when it passes a test and something is measured after it. -/
theorem cons (hf : Halts f) (hp : ∀ {d : Char}, EndsTokens d → p d = false) :
    Halts fun
      | [] => 0
      | c :: rest => if p c ∧ f rest ≠ 0 then f rest + 1 else 0 where
  le_length cs := by
    cases cs with
    | nil => simp
    | cons c rest =>
        have hrest := hf.le_length rest
        by_cases h : p c ∧ f rest ≠ 0
        · simpa [h] using hrest
        · simp [h]
  append_stop hd cs more := by
    cases cs with
    | nil => simp [hp hd]
    | cons c rest => simp [hf.append_stop hd]

/-- The second measure counts where the first one finds nothing. -/
theorem orElse (hf : Halts f) (hg : Halts g) : Halts fun cs => if f cs = 0 then g cs else f cs where
  le_length cs := by
    by_cases h : f cs = 0
    · simpa [h] using hg.le_length cs
    · simpa [h] using hf.le_length cs
  append_stop hd cs more := by
    simp only [hf.append_stop hd, hg.append_stop hd]

end Halts

/-! ## Names and numerals -/

theorem halts_nameLength : Halts nameLength :=
  .takeWhile fun hd => hd.1

theorem halts_digitsLength : Halts digitsLength :=
  .takeWhile EndsTokens.isDigit

/-- No fraction reaches past a character at which tokens end. -/
theorem halts_fractionLength : Halts fractionLength := by
  have h := halts_digitsLength.cons fun hd => hd.contains ['.'] (by decide)
  refine cast (congrArg Halts (funext fun cs => ?_)) h
  cases cs with
  | nil => rfl
  | cons c rest =>
      by_cases hc : c = '.'
      · subst hc
        by_cases hd : digitsLength rest = 0 <;> simp [fractionLength, hd]
      · simp [fractionLength, hc]

/-- The length of a sign, or zero. -/
def signLength : List Char → Nat
  | '+' :: _ | '-' :: _ => 1
  | _ => 0

/-- The length of digits with or without a sign before them, or zero. -/
def signedDigitsLength (cs : List Char) : Nat :=
  if digitsLength (cs.drop (signLength cs)) = 0 then 0
  else signLength cs + digitsLength (cs.drop (signLength cs))

/-- An exponent needs digits behind its letter. -/
theorem exponentLength_cons (c : Char) (rest : List Char) :
    exponentLength (c :: rest) =
      if ['e', 'E'].contains c ∧ signedDigitsLength rest ≠ 0 then signedDigitsLength rest + 1
      else 0 := by
  have hunfold : exponentLength (c :: rest) =
      if c = 'e' ∨ c = 'E' then
        if digitsLength (rest.drop (signLength rest)) = 0 then 0
        else 1 + signLength rest + digitsLength (rest.drop (signLength rest))
      else 0 := rfl
  rw [hunfold, signedDigitsLength]
  by_cases hc : c = 'e' ∨ c = 'E'
  · by_cases hd : digitsLength (rest.drop (signLength rest)) = 0
    · simp [hd]
    · simp [hc, hd]
      omega
  · simp [hc]

/-- Nor do digits with a sign. -/
theorem halts_signedDigitsLength : Halts signedDigitsLength := by
  have hsigned := halts_digitsLength.cons fun hd => hd.contains ['+', '-'] (by decide)
  -- digits with a sign, or else digits without one
  refine cast (congrArg Halts (funext fun cs => ?_)) (hsigned.orElse halts_digitsLength)
  cases cs with
  | nil => rfl
  | cons c rest =>
      by_cases hc : c = '+' ∨ c = '-'
      · have hsign : signLength (c :: rest) = 1 := by
          rcases hc with rfl | rfl <;> rfl
        have hnone : digitsLength (c :: rest) = 0 := by
          rcases hc with rfl | rfl <;> rfl
        by_cases hd : digitsLength rest = 0
        · simp [signedDigitsLength, hsign, hnone, hd]
        · simp [signedDigitsLength, hsign, hd, hc, Nat.add_comm]
      · have hsign : signLength (c :: rest) = 0 := by
          unfold signLength
          split <;> simp_all
        simp [signedDigitsLength, hsign, hc]

/-- Nor does an exponent. -/
theorem halts_exponentLength : Halts exponentLength := by
  have h := halts_signedDigitsLength.cons fun hd => hd.contains ['e', 'E'] (by decide)
  refine cast (congrArg Halts (funext fun cs => ?_)) h
  cases cs with
  | nil => rfl
  | cons c rest => rw [exponentLength_cons]

theorem halts_numeralLength : Halts numeralLength :=
  (halts_digitsLength.andThen halts_fractionLength).andThen halts_exponentLength

/-! ## Symbols -/

/-- Only `=` and `/` stand after the first character of a symbol. -/
theorem symbol?_append_stop {d : Char} (hd : EndsTokens d) (c : Char) (rest more : List Char) :
    symbol? c (rest ++ d :: more).head? = symbol? c rest.head? := by
  have hequals : d ≠ '=' := hd.ne (by decide)
  have hslash : d ≠ '/' := hd.ne (by decide)
  cases rest with
  | nil =>
      show symbol? c (some d) = symbol? c none
      unfold symbol?
      split <;> simp_all
  | cons e rest => rfl

/-- A symbol is no longer than the text it is found in. -/
theorem le_length_of_symbol? {c : Char} {rest : List Char} {t : Token} {n : Nat}
    (h : symbol? c rest.head? = some (t, n)) : n ≤ rest.length := by
  cases rest with
  | nil =>
      -- a symbol of two characters needs a second one
      unfold symbol? at h
      split at h <;> simp_all
  | cons d more =>
      have hone : n ≤ 1 := by
        unfold symbol? at h
        split at h <;> cases h <;> decide
      exact Nat.le_trans hone (Nat.le_add_left ..)

/-! ## The scanner -/

/-- The tokens that begin with a character other than a quote, and how many more they take up. -/
inductive Found (c : Char) (rest : List Char) : Token → Nat → Prop
  | dot : c = '.' → Found c rest .dot 0
  | dotDot : c = '.' → rest ≠ [] → Found c rest .dotDot 1
  | field : c = '.' →
      Found c rest (.field (String.ofList (rest.takeWhile Text.isNameChar))) (nameLength rest)
  | num (x : Binary64) : c.isDigit = true → Found c rest (.num x) (numeralLength rest)
  | ident : Text.isNameStart c = true →
      Found c rest (.ident (String.ofList (c :: rest.takeWhile Text.isNameChar))) (nameLength rest)
  | symbol {t : Token} {n : Nat} : symbol? c rest.head? = some (t, n) → Found c rest t n

section Scan

variable {c : Char} {offset : Nat} {rest : List Char} {t : Token} {n : Nat}

/-- A token that is found is of one of the kinds of `Found`. -/
theorem found_of_scan (hc : c ≠ '"') (h : scan offset c rest = .ok (t, n)) : Found c rest t n := by
  unfold scan at h
  simp only [hc, if_false] at h
  split at h
  · -- a point, alone or with a second point or a name after it
    rename_i hdot
    split at h
    · cases h
      exact .dotDot hdot (List.cons_ne_nil _ _)
    · split at h
      · cases h
        exact .field hdot
      · cases h
        exact .dot hdot
    · cases h
      exact .dot hdot
  · -- a number, a name, or a symbol
    split at h
    · rename_i hdigit
      cases h
      exact .num _ hdigit
    · split at h
      · rename_i hstart
        cases h
        exact .ident hstart
      · split at h
        · rename_i hsymbol
          cases h
          exact .symbol hsymbol
        · cases h

/-- A token is no longer than the text it is found in. -/
theorem Found.le_length (h : Found c rest t n) : n ≤ rest.length := by
  cases h with
  | dot => exact Nat.zero_le _
  | dotDot _ hrest => exact List.length_pos_iff.2 hrest
  | field => exact halts_nameLength.le_length rest
  | num => exact halts_numeralLength.le_length rest
  | ident => exact halts_nameLength.le_length rest
  | symbol hsymbol => exact le_length_of_symbol? hsymbol

/-- A token does not see what follows a character at which it ends. -/
theorem scan_append_stop {d : Char} (hd : EndsTokens d) (hc : c ≠ '"') (offset : Nat)
    (rest more : List Char) : scan offset c (rest ++ d :: more) = scan offset c rest := by
  have hname := takeWhile_append_stop hd.1 rest more
  have hnamelen := halts_nameLength.append_stop hd rest more
  have hnumber := halts_numeralLength.append_stop hd rest more
  have htake : (rest ++ d :: more).take (numeralLength rest) = rest.take (numeralLength rest) :=
    List.take_append_of_le_length (halts_numeralLength.le_length rest)
  by_cases hdot : c = '.'
  · -- only a point looks at the text itself, for a second point or for a name
    subst hdot
    cases rest with
    | nil =>
        have hpoint : d ≠ '.' := hd.ne (by decide)
        simp [scan, hd.isNameStart]
    | cons e rest =>
        simp only [List.cons_append] at hname hnamelen
        unfold scan
        simp only [List.cons_append, if_true]
        split
        · simp_all
        · rename_i heq
          cases heq
          simp only [hname, hnamelen]
        · simp_all
  · simp only [scan, hdot, hc, if_false, hnumber, htake, hname, hnamelen, symbol?_append_stop hd]

/-- No token but a string literal has such a character after its first one. -/
theorem not_mem_of_scan {d : Char} (hd : EndsTokens d) (hc : c ≠ '"')
    (h : scan offset c rest = .ok (t, n)) : d ∉ rest.take n := by
  intro hmem
  rcases List.append_of_mem hmem with ⟨front, back, hsplit⟩
  have hrest : rest = front ++ d :: (back ++ rest.drop n) := by
    rw [← List.cons_append, ← List.append_assoc, ← hsplit, List.take_append_drop]
  -- the token would end before the character
  rw [hrest, scan_append_stop hd hc] at h
  have hshort := (found_of_scan hc h).le_length
  have hlength := congrArg List.length hsplit
  simp only [List.length_take, List.length_append, List.length_cons] at hlength
  omega

/-- A token that begins with another character than a quote takes up plain characters only. -/
theorem scan_plain (hc : c ≠ '"') (h : scan offset c rest = .ok (t, n)) :
    n ≤ rest.length ∧ ∀ x ∈ c :: rest.take n, IsPlain x := by
  refine ⟨(found_of_scan hc h).le_length, List.forall_mem_cons.2 ⟨⟨hc, ?_⟩, fun x hx => ⟨?_, ?_⟩⟩⟩
  · -- a backslash begins no token
    rintro rfl
    cases h
  · rintro rfl
    exact not_mem_of_scan endsTokens_quote hc h hx
  · rintro rfl
    exact not_mem_of_scan endsTokens_backslash hc h hx

end Scan

end Query
end Gleaner
