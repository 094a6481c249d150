import Gleaner.Json.Basic
import Mathlib
/-!
# Whole numbers in the binary format

An integer below `2 ^ 53` needs no rounding, so its decimal digits are read as that integer.

* `nearest_exact`: rounding changes nothing that the format holds;
* `ofText?_toDigits`: digits are read as the number nearest to their value;
* `ofBinary?_ofInt`: a small integer comes back from the binary number nearest to it.
-/

namespace Gleaner
namespace Binary64

/-! ## Rounding -/

theorem roundedQuotient_of_dvd {num den : Nat} (hden : 0 < den) (hdvd : den ∣ num) :
    roundedQuotient num den = num / den := by
  have hrest : num % den = 0 := Nat.mod_eq_zero_of_dvd hdvd
  simp [roundedQuotient, hrest, hden]

/-- A number of units is not rounded when its doublings beyond 53 digits leave no rest. -/
theorem nearest_exact (negative : Bool) {units : Nat} (hdvd : 2 ^ (units.log2 - 52) ∣ units)
    (hlog : units.log2 - 52 ≤ 2045) :
    ∃ x : Finite, nearest negative units 1 = .finite x ∧ x.negative = negative ∧
      x.magnitude = units := by
  have hround := roundedQuotient_of_dvd (Nat.two_pow_pos _) hdvd
  have hshort : units / 2 ^ (units.log2 - 52) < 2 ^ 53 := by
    rw [Nat.div_lt_iff_lt_mul (Nat.two_pow_pos _), ← Nat.pow_add]
    refine Nat.lt_of_lt_of_le Nat.lt_log2_self ?_
    exact Nat.pow_le_pow_right (by decide) (by omega)
  have hcanonical : Canonical (units / 2 ^ (units.log2 - 52)) (units.log2 - 52) := by
    refine ⟨hshort, hlog, ?_⟩
    by_cases hsmall : units.log2 ≤ 52
    · exact .inl (by omega)
    · -- the leading digit is the last one of the doublings
      have hne : units ≠ 0 := by
        rintro rfl
        exact hsmall (by decide)
      refine .inr ((Nat.le_div_iff_mul_le (Nat.two_pow_pos _)).2 ?_)
      rw [← Nat.pow_add, show 52 + (units.log2 - 52) = units.log2 by omega]
      exact Nat.log2_self_le hne
  refine ⟨⟨negative, _, _, hcanonical⟩, ?_, rfl, Nat.div_mul_cancel hdvd⟩
  have hnot : units / 2 ^ (units.log2 - 52) ≠ 2 ^ 53 := Nat.ne_of_lt hshort
  simp only [nearest, Nat.div_one, Nat.one_mul, hround, if_neg hnot, ofParts, dif_pos hcanonical]

/-- The exponent that a doubled number needs is at most the number of doublings. -/
theorem log2_doubled_le {k : Nat} (hk : k < 2 ^ 53) (doublings : Nat) :
    (k * 2 ^ doublings).log2 - 52 ≤ doublings := by
  by_cases hzero : k = 0
  · rw [hzero, Nat.zero_mul]
    exact Nat.zero_le _
  · have hne : k * 2 ^ doublings ≠ 0 :=
      Nat.mul_ne_zero hzero (Nat.ne_of_gt (Nat.two_pow_pos _))
    have hlt : k * 2 ^ doublings < 2 ^ (53 + doublings) := by
      rw [Nat.pow_add]
      exact Nat.mul_lt_mul_of_pos_right hk (Nat.two_pow_pos _)
    have hlog := (Nat.log2_lt hne).2 hlt
    omega

theorem unitsPerOne_pos : 0 < unitsPerOne := by
  unfold unitsPerOne
  exact Nat.two_pow_pos 1074

/-- Below `2 ^ 53` an integer is not rounded. -/
theorem ofInt_exact {n : Int} (hn : n.natAbs < 2 ^ 53) :
    ∃ x : Finite, ofInt n = .finite x ∧ x.negative = decide (n < 0) ∧
      x.magnitude = n.natAbs * unitsPerOne := by
  have hlog := log2_doubled_le hn 1074
  unfold ofInt unitsPerOne
  refine nearest_exact _ ?_ (Nat.le_trans hlog (by decide))
  exact Nat.dvd_trans (Nat.pow_dvd_pow 2 hlog) (Nat.dvd_mul_left _ _)

/-- A positive whole number of units of one is that number. -/
theorem Finite.trunc_of_magnitude {x : Finite} {n : Nat} (hsign : x.negative = false)
    (hx : x.magnitude = n * unitsPerOne) : x.trunc = n := by
  have hunit : (unitsPerOne : Int) ≠ 0 := Int.natCast_ne_zero.2 (Nat.ne_of_gt unitsPerOne_pos)
  simp only [trunc, scaled, hsign, hx, Bool.false_eq_true, if_false]
  rw [Int.natCast_mul, Int.mul_tdiv_cancel _ hunit]

/-- The binary number of a small integer is that integer. -/
theorem ofInt_whole {n : Nat} (hn : n < 2 ^ 53) :
    ∃ x : Finite, ofInt n = .finite x ∧ x.isIntegral = true ∧ x.trunc = n := by
  rcases ofInt_exact (n := n) hn with ⟨x, hx, hsign, hmagnitude⟩
  have hpositive : x.negative = false := by
    rw [hsign]
    exact decide_eq_false (Int.not_lt.2 (Int.natCast_nonneg n))
  refine ⟨x, hx, ?_, Finite.trunc_of_magnitude hpositive hmagnitude⟩
  simp [Finite.isIntegral, hmagnitude]

/-! ## Reading digits -/

theorem digitsValue_toDigits (n : Nat) : digitsValue (Nat.toDigits 10 n) = n :=
  Nat.ofDigitChars_toDigits (by decide) (by decide)

theorem isDigit_of_mem_toDigits {n : Nat} {c : Char} (h : c ∈ Nat.toDigits 10 n) :
    c.isDigit = true :=
  Nat.isDigit_of_mem_toDigits (by decide) (by decide) h

/-- A numeral that begins with a digit has no sign. -/
theorem readSign_digit {c : Char} (hc : c.isDigit = true) (rest : List Char) :
    readSign (c :: rest) = (false, c :: rest) := by
  unfold readSign
  split
  · rename_i heq
    cases heq
    cases hc
  · rename_i heq
    cases heq
    cases hc
  · rfl

/-- Text that begins with a digit is none of the words for what is not finite. -/
theorem lower_ne_of_digit {c : Char} (hc : c.isDigit = true) (rest : List Char) (word : String)
    {letter : Char} {letters : List Char} (hword : word.toList = letter :: letters)
    (hletter : letter.isDigit = false) :
    String.ofList ((c :: rest).map Text.asciiLowerChar) ≠ word := by
  intro heq
  have hlist := congrArg String.toList heq
  rw [String.toList_ofList, hword, List.map_cons] at hlist
  have hhead := (List.cons.inj hlist).1
  have hupper : ¬ ('A' ≤ c ∧ c ≤ 'Z') := by
    simp only [Char.isDigit, Bool.and_eq_true, decide_eq_true_eq] at hc
    rintro ⟨hlow, _⟩
    exact absurd (Char.le_trans hlow hc.2) (by decide)
  rw [Text.asciiLowerChar, if_neg hupper] at hhead
  rw [← hhead, hc] at hletter
  cases hletter

/-- Digits without a point are read as the number nearest to their value. -/
theorem ofDecimal_natural {n : Nat} (hn : n ≤ 2 ^ 64) : ofDecimal false n 0 = ofInt n := by
  have hlen : (Nat.toDigits 10 n).length ≤ 20 :=
    (Nat.length_toDigits_le_iff (by decide) (by decide)).2 (Nat.lt_of_le_of_lt hn (by decide))
  have hhigh : ¬ ((0 : Int) + (Nat.toDigits 10 n).length > 400) := by omega
  have hlow : ¬ ((0 : Int) + (Nat.toDigits 10 n).length < -400) := by omega
  have hsign : decide ((n : Int) < 0) = false := by simp
  rw [ofInt, hsign, Int.natAbs_natCast]
  by_cases hzero : n = 0
  · subst hzero
    rw [Nat.zero_mul]
    rfl
  · simp only [ofDecimal, if_neg hzero, if_neg hhigh, if_neg hlow]
    simp

/-- Digits are read as the number nearest to their value. -/
theorem ofText?_toDigits {n : Nat} (hn : n < 2 ^ 53) :
    ofText? (Nat.toDigits 10 n) = some (ofInt n) := by
  have hshort : n ≤ 2 ^ 64 := Nat.le_trans (Nat.le_of_lt hn) (by decide)
  have hall : ∀ c ∈ Nat.toDigits 10 n, c.isDigit = true := fun c hc => isDigit_of_mem_toDigits hc
  have hvalue := digitsValue_toDigits n
  have hwhole : (Nat.toDigits 10 n).takeWhile Char.isDigit = Nat.toDigits 10 n :=
    List.takeWhile_eq_self_iff.2 hall
  have hnone : (Nat.toDigits 10 n).dropWhile Char.isDigit = [] :=
    List.dropWhile_eq_nil_iff.2 hall
  cases hdigits : Nat.toDigits 10 n with
  | nil => exact absurd hdigits Nat.toDigits_ne_nil
  | cons c rest =>
      rw [hdigits] at hall hvalue hwhole hnone
      have hc := hall c List.mem_cons_self
      have hinf := lower_ne_of_digit hc rest "inf" rfl (by decide)
      have hinfinity := lower_ne_of_digit hc rest "infinity" rfl (by decide)
      have hnan := lower_ne_of_digit hc rest "nan" rfl (by decide)
      simp only [ofText?, readSign_digit hc, hinf, hinfinity, hnan, or_self, if_false]
      simp [readUnsigned?, hwhole, hnone, readExponent?, hvalue, ofDecimal_natural hshort]

end Binary64

/-- A small integer comes back from the binary number nearest to it. -/
theorem Number.ofBinary?_ofInt {n : Nat} (hn : n < 2 ^ 53) :
    ofBinary? (Binary64.ofInt n) = some (.integer n) := by
  rcases Binary64.ofInt_whole hn with ⟨x, hx, hintegral, htrunc⟩
  have hrange : -exactBound < x.trunc ∧ x.trunc < exactBound := by
    rw [htrunc, exactBound]
    omega
  rw [hx, ofBinary?, ofFinite, if_pos ⟨hintegral, hrange⟩, htrunc]

end Gleaner
