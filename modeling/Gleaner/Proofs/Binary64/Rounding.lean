import Gleaner.Binary64.Decimal
import Gleaner.Proofs.Binary64.Whole
import Mathlib
/-!
# The reals that round to a number

Around each positive number lies the interval of the reals for which it is the nearest number. It
reaches half way to the neighbours, and its ends belong to it when the significand is even.

* `Finite.Rounds x q` says that `q` units lie in the interval of `|x|`;
* `roundsHere_iff`: this is what the search for short decimals tests;
* `nearest_of_rounds`: a quotient in the interval is rounded to the number;
* `ofDecimal_of_rounds`: so is a decimal, however long it is.
-/

namespace Gleaner
namespace Binary64

/-! ## Quotients -/

/-- A quotient at most a half away from an integer is rounded to it, a tie only if it is even. -/
theorem roundedQuotient_eq {num den m : Nat} (hlow : 2 * (m * den) ≤ 2 * num + den)
    (hhigh : 2 * num ≤ 2 * (m * den) + den)
    (hodd : m % 2 = 1 → 2 * (m * den) < 2 * num + den ∧ 2 * num < 2 * (m * den) + den)
    (hden : 0 < den) : roundedQuotient num den = m := by
  have hsplit : den * (num / den) + num % den = num := Nat.div_add_mod num den
  have hrest : num % den < den := Nat.mod_lt num hden
  have hcomm : m * den = den * m := Nat.mul_comm m den
  have hbelow : m ≤ num / den + 1 := by
    by_contra hlt
    have hle : den * (num / den + 2) ≤ den * m := Nat.mul_le_mul_left den (by omega)
    rw [Nat.mul_add] at hle
    omega
  have habove : num / den ≤ m := by
    by_contra hlt
    have hle : den * (m + 1) ≤ den * (num / den) := Nat.mul_le_mul_left den (by omega)
    rw [Nat.mul_add] at hle
    omega
  unfold roundedQuotient
  rcases Nat.lt_or_ge (num / den) m with hlt | hge
  · -- the integer lies above the quotient, whose rest is at least a half
    obtain rfl : m = num / den + 1 := by omega
    rw [Nat.mul_add, Nat.mul_one] at hcomm
    have hnot : ¬ 2 * (num % den) < den := by omega
    rw [if_neg hnot]
    by_cases hmore : den < 2 * (num % den)
    · rw [if_pos hmore]
    · rw [if_neg hmore]
      by_contra hne
      have := hodd (by omega)
      omega
  · obtain rfl : m = num / den := by omega
    have hnot : ¬ den < 2 * (num % den) := by omega
    by_cases hless : 2 * (num % den) < den
    · rw [if_pos hless]
    · rw [if_neg hless, if_neg hnot]
      by_contra hne
      have := hodd (by omega)
      omega

namespace Finite

variable {x : Finite}

/-! ## The interval -/

/-- The distance from a number to the lower end of its interval, in units. -/
def gapBelow (x : Finite) : ℚ :=
  (x.roundingGaps.1 : ℚ) / 4

/-- The distance from a number to the upper end of its interval, in units. -/
def gapAbove (x : Finite) : ℚ :=
  (x.roundingGaps.2 : ℚ) / 4

/-- The reals, in units, that round to the absolute value of a number. -/
structure Rounds (x : Finite) (q : ℚ) : Prop where
  lower : x.magnitude - x.gapBelow ≤ q
  upper : q ≤ x.magnitude + x.gapAbove
  odd : x.significand % 2 = 1 → x.magnitude - x.gapBelow < q ∧ q < x.magnitude + x.gapAbove

/-- Above a number, half a unit of its last place rounds to it. -/
theorem gapAbove_eq (x : Finite) : x.gapAbove = 2 ^ x.exponent / 2 := by
  unfold gapAbove roundingGaps
  push_cast
  ring

/-- Below a number, at most half a unit of its last place rounds to it. -/
theorem gapBelow_le (x : Finite) : x.gapBelow ≤ 2 ^ x.exponent / 2 := by
  rw [← gapAbove_eq]
  unfold gapBelow gapAbove roundingGaps
  refine div_le_div_of_nonneg_right ?_ (by norm_num)
  dsimp only
  split
  · exact Nat.cast_le.2 (Nat.div_le_self _ 2)
  · exact le_refl _

/-- Below a power of two the neighbours are twice as close. -/
theorem gapBelow_of_power (hsignificand : x.significand = 2 ^ 52) (hexponent : x.exponent ≠ 0) :
    x.gapBelow = 2 ^ x.exponent / 4 := by
  unfold gapBelow roundingGaps
  dsimp only
  rw [if_pos ⟨hsignificand, hexponent⟩, Nat.mul_div_cancel_left _ (by norm_num)]
  push_cast
  ring

theorem cast_magnitude (x : Finite) : (x.magnitude : ℚ) = x.significand * 2 ^ x.exponent := by
  unfold magnitude
  push_cast
  ring

/-- The interval that rounds to a number does not reach below zero. -/
theorem roundingGaps_fst_le (hx : x.significand ≠ 0) : x.roundingGaps.1 ≤ 4 * x.magnitude := by
  have hhalf : x.roundingGaps.1 ≤ 2 * 2 ^ x.exponent := by
    unfold roundingGaps
    dsimp only
    split
    · exact Nat.div_le_self _ 2
    · exact le_refl _
  have hone : 1 * 2 ^ x.exponent ≤ x.significand * 2 ^ x.exponent :=
    Nat.mul_le_mul_right _ (Nat.one_le_iff_ne_zero.2 hx)
  unfold magnitude
  omega

/-- The test of the search, on quarters of a unit, is whether the value lies in the interval. -/
theorem roundsHere_iff (hx : x.significand ≠ 0) {num den : Nat} (hden : 0 < den) :
    x.roundsHere num den = true ↔ x.Rounds ((num : ℚ) / den / 4) := by
  have hgap := roundingGaps_fst_le hx
  have hposition : (0 : ℚ) < den := by exact_mod_cast hden
  have hlower : ((4 * x.magnitude - x.roundingGaps.1 : Nat) : ℚ) =
      4 * (x.magnitude - x.gapBelow) := by
    rw [Nat.cast_sub hgap, gapBelow]
    push_cast
    ring
  have hupper : ((4 * x.magnitude + x.roundingGaps.2 : Nat) : ℚ) =
      4 * (x.magnitude + x.gapAbove) := by
    rw [gapAbove]
    push_cast
    ring
  -- multiplied by the denominator, the four bounds are bounds on integers
  have hle : (4 * x.magnitude - x.roundingGaps.1) * den ≤ num ↔
      x.magnitude - x.gapBelow ≤ (num : ℚ) / den / 4 := by
    rw [← Nat.cast_le (α := ℚ), Nat.cast_mul, hlower, ← le_div_iff₀ hposition,
      le_div_iff₀ (by norm_num : (0 : ℚ) < 4), mul_comm]
  have hge : num ≤ (4 * x.magnitude + x.roundingGaps.2) * den ↔
      (num : ℚ) / den / 4 ≤ x.magnitude + x.gapAbove := by
    rw [← Nat.cast_le (α := ℚ), Nat.cast_mul, hupper, ← div_le_iff₀ hposition,
      div_le_iff₀ (by norm_num : (0 : ℚ) < 4), mul_comm (4 : ℚ)]
  have hlt : (4 * x.magnitude - x.roundingGaps.1) * den < num ↔
      x.magnitude - x.gapBelow < (num : ℚ) / den / 4 := by
    rw [← Nat.cast_lt (α := ℚ), Nat.cast_mul, hlower, ← lt_div_iff₀ hposition,
      lt_div_iff₀ (by norm_num : (0 : ℚ) < 4), mul_comm]
  have hgt : num < (4 * x.magnitude + x.roundingGaps.2) * den ↔
      (num : ℚ) / den / 4 < x.magnitude + x.gapAbove := by
    rw [← Nat.cast_lt (α := ℚ), Nat.cast_mul, hupper, ← div_lt_iff₀ hposition,
      div_lt_iff₀ (by norm_num : (0 : ℚ) < 4), mul_comm (4 : ℚ)]
  unfold roundsHere
  dsimp only
  by_cases heven : x.significand % 2 = 0
  · rw [if_pos heven, Bool.and_eq_true, decide_eq_true_eq, decide_eq_true_eq, hle, hge]
    constructor
    · rintro ⟨hlow, hhigh⟩
      refine ⟨hlow, hhigh, ?_⟩
      intro hodd
      omega
    · intro h
      exact ⟨h.lower, h.upper⟩
  · rw [if_neg heven, Bool.and_eq_true, decide_eq_true_eq, decide_eq_true_eq, hlt, hgt]
    constructor
    · rintro ⟨hlow, hhigh⟩
      exact ⟨hlow.le, hhigh.le, fun _ => ⟨hlow, hhigh⟩⟩
    · intro h
      exact h.odd (by omega)

end Finite

/-! ## Rounding into the number -/

variable {x : Finite} {num den : Nat}

/-- The binary logarithm is the exponent of the power of two below. -/
theorem log2_eq_of_bounds {n k : Nat} (hlow : 2 ^ k ≤ n) (hhigh : n < 2 ^ (k + 1)) :
    n.log2 = k := by
  have hne : n ≠ 0 := by
    have := Nat.two_pow_pos k
    omega
  have hlt := (Nat.log2_lt hne).2 hhigh
  have hle := (Nat.le_log2 hne).2 hlow
  omega

theorem ofParts_canonical (negative : Bool) {m e : Nat} (h : Canonical m e) :
    ofParts negative m e = .finite ⟨negative, m, e, h⟩ :=
  dif_pos h

/-- Where the significand fits, the parts found by rounding are those of the number. -/
theorem nearest_of_exponent {m e : Nat} (hcanonical : Canonical m e)
    (hexponent : (num / den).log2 - 52 = e) (hround : roundedQuotient num (den * 2 ^ e) = m)
    (negative : Bool) : nearest negative num den = .finite ⟨negative, m, e, hcanonical⟩ := by
  have hne : m ≠ 2 ^ 53 := Nat.ne_of_lt hcanonical.1
  simp only [nearest, hexponent, hround, if_neg hne]
  exact ofParts_canonical negative hcanonical

/-- A significand that is rounded up to its bound is halved, and doubled once more. -/
theorem nearest_of_carry {e : Nat} (hcanonical : Canonical (2 ^ 52) (e + 1))
    (hexponent : (num / den).log2 - 52 = e)
    (hround : roundedQuotient num (den * 2 ^ e) = 2 ^ 53) (negative : Bool) :
    nearest negative num den = .finite ⟨negative, 2 ^ 52, e + 1, hcanonical⟩ := by
  simp only [nearest, hexponent, hround, if_true]
  exact ofParts_canonical negative hcanonical

def Finite.withSign (x : Finite) (negative : Bool) : Finite :=
  { x with negative := negative }

/-- The bounds of the interval, on integers. -/
theorem Finite.Rounds.bounds (h : x.Rounds ((num : ℚ) / den)) (hden : 0 < den) :
    2 * (x.significand * (den * 2 ^ x.exponent)) ≤ 2 * num + den * 2 ^ x.exponent ∧
      2 * num ≤ 2 * (x.significand * (den * 2 ^ x.exponent)) + den * 2 ^ x.exponent ∧
      (x.significand % 2 = 1 →
        2 * (x.significand * (den * 2 ^ x.exponent)) < 2 * num + den * 2 ^ x.exponent ∧
          2 * num < 2 * (x.significand * (den * 2 ^ x.exponent)) + den * 2 ^ x.exponent) := by
  have hposition : (0 : ℚ) < den := by exact_mod_cast hden
  -- half a step below is a bound for every number, though those at a power of two come closer
  have hgap := x.gapBelow_le
  have hmagnitude := x.cast_magnitude
  have habove := x.gapAbove_eq
  refine ⟨?_, ?_, ?_⟩
  · have hlow : (x.significand * 2 ^ x.exponent - 2 ^ x.exponent / 2 : ℚ) ≤ num / den := by
      linarith [h.lower]
    rw [le_div_iff₀ hposition] at hlow
    rify at hlow ⊢
    linarith
  · have hhigh : (num / den : ℚ) ≤ x.significand * 2 ^ x.exponent + 2 ^ x.exponent / 2 := by
      linarith [h.upper]
    rw [div_le_iff₀ hposition] at hhigh
    rify at hhigh ⊢
    linarith
  · intro hodd
    have hstrict := h.odd hodd
    constructor
    · have hlow : (x.significand * 2 ^ x.exponent - 2 ^ x.exponent / 2 : ℚ) < num / den := by
        linarith [hstrict.1]
      rw [lt_div_iff₀ hposition] at hlow
      rify at hlow ⊢
      linarith
    · have hhigh : (num / den : ℚ) < x.significand * 2 ^ x.exponent + 2 ^ x.exponent / 2 := by
        linarith [hstrict.2]
      rw [div_lt_iff₀ hposition] at hhigh
      rify at hhigh ⊢
      linarith

/-- Below a power of two the interval reaches only a quarter of the doublings down. -/
theorem Finite.Rounds.bound_of_power (h : x.Rounds ((num : ℚ) / den)) (hden : 0 < den)
    (hsignificand : x.significand = 2 ^ 52) (hexponent : x.exponent ≠ 0) :
    4 * (2 ^ 52 * (den * 2 ^ x.exponent)) ≤ 4 * num + den * 2 ^ x.exponent := by
  have hposition : (0 : ℚ) < den := by exact_mod_cast hden
  have hmagnitude := x.cast_magnitude
  have hgap := Finite.gapBelow_of_power hsignificand hexponent
  rw [hsignificand] at hmagnitude
  have hlow : (2 ^ 52 * 2 ^ x.exponent - 2 ^ x.exponent / 4 : ℚ) ≤ num / den := by
    push_cast at hmagnitude
    linarith [h.lower]
  rw [le_div_iff₀ hposition] at hlow
  rify at hlow ⊢
  linarith

/-- Where the quotient has the exponent of the number, its significand is the nearest integer. -/
theorem nearest_of_bounds {m e : Nat} (hcanonical : Canonical m e) (hden : 0 < den)
    (hlow : 2 * (m * (den * 2 ^ e)) ≤ 2 * num + den * 2 ^ e)
    (hhigh : 2 * num ≤ 2 * (m * (den * 2 ^ e)) + den * 2 ^ e)
    (hodd : m % 2 = 1 → 2 * (m * (den * 2 ^ e)) < 2 * num + den * 2 ^ e ∧
      2 * num < 2 * (m * (den * 2 ^ e)) + den * 2 ^ e)
    (hpart : 2 ^ (52 + e) ≤ num / den ∨ e = 0) (negative : Bool) :
    nearest negative num den = .finite ⟨negative, m, e, hcanonical⟩ := by
  have hstep : 0 < den * 2 ^ e := Nat.mul_pos hden (Nat.two_pow_pos e)
  -- the quotient stays below the next power of two
  have hquotient : num / den < 2 ^ (53 + e) := by
    have hle : m * (den * 2 ^ e) ≤ (2 ^ 53 - 1) * (den * 2 ^ e) :=
      Nat.mul_le_mul_right _ (Nat.le_pred_of_lt hcanonical.1)
    rw [Nat.div_lt_iff_lt_mul hden, show 2 ^ (53 + e) * den = 2 ^ 53 * (den * 2 ^ e) by ring]
    omega
  have hexponent : (num / den).log2 - 52 = e := by
    rcases hpart with hle | rfl
    · have hlog := log2_eq_of_bounds hle (by rwa [show 52 + e + 1 = 53 + e by omega])
      omega
    · -- the least exponent has no lower bound, and subtraction stops there as well
      by_cases hzero : num / den = 0
      · rw [hzero]
        decide
      · have hlog := (Nat.log2_lt hzero).2 hquotient
        omega
  exact nearest_of_exponent hcanonical hexponent (roundedQuotient_eq hlow hhigh hodd hstep) negative

/-- Just below a power of two the significand is rounded up to its bound. -/
theorem nearest_below_power {k : Nat} (hcanonical : Canonical (2 ^ 52) (k + 1)) (hden : 0 < den)
    (hlow : 4 * (2 ^ 52 * (den * 2 ^ (k + 1))) ≤ 4 * num + den * 2 ^ (k + 1))
    (hless : num / den < 2 ^ (52 + (k + 1))) (negative : Bool) :
    nearest negative num den = .finite ⟨negative, 2 ^ 52, k + 1, hcanonical⟩ := by
  have hstep : 0 < den * 2 ^ k := Nat.mul_pos hden (Nat.two_pow_pos k)
  -- the quotient has one exponent less, so that its step is half as wide
  have hdouble : den * 2 ^ (k + 1) = 2 * (den * 2 ^ k) := by ring
  have hunder : num < 2 ^ 53 * (den * 2 ^ k) := by
    have hlt := (Nat.div_lt_iff_lt_mul hden).1 hless
    rwa [show 2 ^ (52 + (k + 1)) * den = 2 ^ 53 * (den * 2 ^ k) by ring] at hlt
  have hexponent : (num / den).log2 - 52 = k := by
    have hlog : (num / den).log2 = 52 + k := by
      refine log2_eq_of_bounds ?_ hless
      rw [Nat.le_div_iff_mul_le hden, show 2 ^ (52 + k) * den = 2 ^ 52 * (den * 2 ^ k) by ring]
      omega
    omega
  have hround : roundedQuotient num (den * 2 ^ k) = 2 ^ 53 := by
    refine roundedQuotient_eq (by omega) (by omega) ?_ hstep
    intro hodd
    cases hodd
  exact nearest_of_carry hcanonical hexponent hround negative

/-- A quotient in the interval of a number is rounded to the number. -/
theorem nearest_of_rounds (h : x.Rounds ((num : ℚ) / den)) (hden : 0 < den) (negative : Bool) :
    nearest negative num den = .finite (x.withSign negative) := by
  rcases h.bounds hden with ⟨hlow, hhigh, hodd⟩
  have hquarter := h.bound_of_power hden
  rcases x with ⟨_, m, e, hcanonical⟩
  by_cases hpart : 2 ^ (52 + e) ≤ num / den ∨ e = 0
  · exact nearest_of_bounds hcanonical hden hlow hhigh hodd hpart negative
  · -- only the numbers at a power of two reach below their own exponent
    push Not at hpart
    rcases hpart with ⟨hless, hpositive⟩
    obtain ⟨k, rfl⟩ : ∃ k, e = k + 1 := ⟨e - 1, by omega⟩
    have hunder := (Nat.div_lt_iff_lt_mul hden).1 hless
    rw [show 2 ^ (52 + (k + 1)) * den = 2 ^ 52 * (den * 2 ^ (k + 1)) by ring] at hunder
    obtain rfl : m = 2 ^ 52 := by
      -- any larger significand would put the whole interval above the power of two
      have hge : 2 ^ 52 ≤ m := hcanonical.2.2.resolve_left hpositive
      by_contra hne
      have hle : (2 ^ 52 + 1) * (den * 2 ^ (k + 1)) ≤ m * (den * 2 ^ (k + 1)) :=
        Nat.mul_le_mul_right _ (by omega)
      simp only at hlow
      omega
    exact nearest_below_power hcanonical hden (hquarter rfl hpositive) hless negative

/-! ## Decimals -/

def Decimal.value (d : Decimal) : ℚ :=
  d.digits * 10 ^ d.exponent

/-- A positive power and a negative one, of which one is zero, are one power of ten. -/
theorem pow_toNat_div_pow_toNat (e : Int) :
    (10 : ℚ) ^ e.toNat / 10 ^ (-e).toNat = 10 ^ e := by
  rcases Int.le_total 0 e with he | he
  · rcases Int.eq_ofNat_of_zero_le he with ⟨n, rfl⟩
    simp
  · rcases Int.eq_ofNat_of_zero_le (Int.neg_nonneg.2 he) with ⟨n, hn⟩
    obtain rfl : e = -(n : Int) := by omega
    simp

/-- The interval of a number begins at half a unit or above. -/
theorem Finite.Rounds.half_le {q : ℚ} (hx : x.significand ≠ 0) (h : x.Rounds q) : 1 / 2 ≤ q := by
  have hmagnitude := x.cast_magnitude
  have hgap := x.gapBelow_le
  have hone : (1 : ℚ) ≤ x.significand := by exact_mod_cast Nat.one_le_iff_ne_zero.2 hx
  have hpower : (1 : ℚ) ≤ 2 ^ x.exponent := one_le_pow₀ (by norm_num)
  nlinarith [h.lower]

/-- The interval of a number ends below the first power of two that is out of range. -/
theorem Finite.Rounds.lt_pow {q : ℚ} (h : x.Rounds q) : q < 2 ^ (53 + 2045) := by
  have hmagnitude := x.cast_magnitude
  have habove := x.gapAbove_eq
  have hsignificand : (x.significand : ℚ) + 1 ≤ 2 ^ 53 := by exact_mod_cast x.canonical.1
  have hpower : (2 : ℚ) ^ x.exponent ≤ 2 ^ 2045 :=
    pow_le_pow_right₀ one_le_two x.canonical.2.1
  have hpositive : (0 : ℚ) < 2 ^ x.exponent := pow_pos two_pos _
  calc
    q ≤ x.magnitude + x.gapAbove := h.upper
    _ = (x.significand + 1 / 2) * 2 ^ x.exponent := by rw [hmagnitude, habove]; ring
    _ < (x.significand + 1) * 2 ^ x.exponent := by nlinarith
    _ ≤ 2 ^ 53 * 2 ^ x.exponent := mul_le_mul_of_nonneg_right hsignificand hpositive.le
    _ ≤ 2 ^ 53 * 2 ^ 2045 := mul_le_mul_of_nonneg_left hpower (by positivity)
    _ = 2 ^ (53 + 2045) := (pow_add _ _ _).symm

/-- The digits of an integer bound it by powers of ten. -/
theorem digitCount_bounds {n : Nat} (hn : n ≠ 0) :
    10 ^ (digitCount n - 1) ≤ n ∧ n < 10 ^ digitCount n := by
  have hpositive : 0 < digitCount n := Nat.length_toDigits_pos
  have hiff : ∀ {k : Nat}, 0 < k → (digitCount n ≤ k ↔ n < 10 ^ k) :=
    fun hk => Nat.length_toDigits_le_iff (by decide) hk
  refine ⟨?_, (hiff hpositive).1 (Nat.le_refl _)⟩
  by_contra hlt
  have hone : digitCount n - 1 ≠ 0 := by
    intro hzero
    rw [hzero] at hlt
    omega
  have hle := (hiff (Nat.pos_of_ne_zero hone)).2 (Nat.lt_of_not_le hlt)
  omega

theorem cast_unitsPerOne : (unitsPerOne : ℚ) = 2 ^ 1074 := by
  unfold unitsPerOne
  -- with the exponent in view, the power would be computed
  generalize 1074 = n
  push_cast
  rfl

/-- The magnitude of a decimal is that of its first digit. -/
theorem Decimal.value_bounds {d : Decimal} (hdigits : d.digits ≠ 0) :
    (10 : ℚ) ^ (d.exponent + digitCount d.digits - 1) ≤ d.value ∧
      d.value < 10 ^ (d.exponent + digitCount d.digits) := by
  rcases digitCount_bounds hdigits with ⟨hleast, hmost⟩
  have hcount : 1 ≤ digitCount d.digits := Nat.length_toDigits_pos
  have hpower : (0 : ℚ) < 10 ^ d.exponent := by positivity
  have hten : (10 : ℚ) ≠ 0 := by norm_num
  constructor
  · have hcast : (10 : ℚ) ^ (digitCount d.digits - 1) ≤ d.digits := by exact_mod_cast hleast
    have hsplit : (10 : ℚ) ^ (d.exponent + digitCount d.digits - 1) =
        10 ^ (digitCount d.digits - 1) * 10 ^ d.exponent := by
      rw [← zpow_natCast, ← zpow_add₀ hten]
      congr 1
      omega
    rw [hsplit, value]
    exact mul_le_mul_of_nonneg_right hcast hpower.le
  · have hcast : (d.digits : ℚ) < 10 ^ digitCount d.digits := by exact_mod_cast hmost
    have hsplit : (10 : ℚ) ^ (d.exponent + digitCount d.digits) =
        10 ^ digitCount d.digits * 10 ^ d.exponent := by
      rw [← zpow_natCast, ← zpow_add₀ hten, Int.add_comm]
    rw [hsplit, value]
    exact mul_lt_mul_of_pos_right hcast hpower

/-- Four hundred decimal places are more than the format has on either side. -/
theorem pow_ten_bounds :
    (2 : ℚ) ^ 1074 * 2 < 10 ^ 400 ∧ (2 : ℚ) ^ (53 + 2045) < 10 ^ 400 * 2 ^ 1074 := by
  -- eight is below ten, so 1200 doublings are less than 400 places
  have height : (2 : ℚ) ^ (3 * 400) ≤ 10 ^ 400 := by
    rw [pow_mul]
    exact pow_le_pow_left₀ (by norm_num) (by norm_num) 400
  constructor
  · rw [← pow_succ]
    exact lt_of_lt_of_le (pow_lt_pow_right₀ one_lt_two (by norm_num)) height
  · refine lt_of_lt_of_le ?_ (mul_le_mul_of_nonneg_right height (by positivity))
    rw [← pow_add]
    exact pow_lt_pow_right₀ one_lt_two (by norm_num)

/-- A decimal that rounds to a number is nowhere near the bounds of the format. -/
theorem Finite.Rounds.places {d : Decimal} (hx : x.significand ≠ 0) (hdigits : d.digits ≠ 0)
    (h : x.Rounds (d.value * unitsPerOne)) :
    -400 ≤ d.exponent + digitCount d.digits ∧ d.exponent + digitCount d.digits ≤ 400 := by
  have hlarge := h.lt_pow
  have hsmall := h.half_le hx
  rcases Decimal.value_bounds hdigits with ⟨hleast, hmost⟩
  rcases pow_ten_bounds with ⟨hunits, hrange⟩
  have hten : (1 : ℚ) ≤ 10 := by norm_num
  have hpow : (10 : ℚ) ^ (400 : Int) = 10 ^ 400 := zpow_natCast 10 400
  rw [cast_unitsPerOne] at hlarge hsmall
  constructor
  · by_contra hlow
    -- the value would be at most `10 ^ -400`, far below half a unit
    have hvalue : d.value ≤ 10 ^ (-400 : Int) :=
      hmost.le.trans (zpow_le_zpow_right₀ hten (by omega))
    rw [zpow_neg, hpow, ← one_div, le_div_iff₀ (by positivity)] at hvalue
    have hpositive : 0 < d.value := lt_of_lt_of_le (by positivity) hleast
    have hproduct := mul_lt_mul_of_pos_left hunits hpositive
    -- what is left is linear in the two powers
    generalize (10 : ℚ) ^ 400 = ten at *
    generalize (2 : ℚ) ^ 1074 = units at *
    linarith
  · by_contra hhigh
    have hvalue : (10 : ℚ) ^ (400 : Int) ≤ d.value :=
      le_trans (zpow_le_zpow_right₀ hten (by omega)) hleast
    rw [hpow] at hvalue
    have hproduct := mul_le_mul_of_nonneg_right hvalue (by positivity : (0 : ℚ) ≤ 2 ^ 1074)
    exact absurd hlarge (not_lt.2 (hrange.le.trans hproduct))

/-- A decimal in the interval of a number is read as the number. -/
theorem ofDecimal_of_rounds {d : Decimal} (hx : x.significand ≠ 0)
    (h : x.Rounds (d.value * unitsPerOne)) (negative : Bool) :
    ofDecimal negative d.digits d.exponent = .finite (x.withSign negative) := by
  have hdigits : d.digits ≠ 0 := by
    intro hzero
    have hhalf := h.half_le hx
    rw [Decimal.value, hzero, Nat.cast_zero, zero_mul, zero_mul] at hhalf
    exact absurd hhalf (by norm_num)
  rcases h.places hx hdigits with ⟨hlow, hhigh⟩
  unfold digitCount at hlow hhigh
  have hpower := pow_toNat_div_pow_toNat d.exponent
  simp only [ofDecimal, if_neg hdigits, if_neg (not_lt.2 hhigh), if_neg (not_lt.2 hlow)]
  -- a power of ten multiplies the digits or divides them
  by_cases hexponent : 0 ≤ d.exponent
  · rw [if_pos hexponent]
    refine nearest_of_rounds ?_ Nat.one_pos negative
    have hnone : (-d.exponent).toNat = 0 := by omega
    rw [hnone, pow_zero, div_one] at hpower
    convert h using 1
    rw [Decimal.value, ← hpower]
    push_cast
    ring
  · rw [if_neg hexponent]
    refine nearest_of_rounds ?_ (Nat.pow_pos (by decide)) negative
    have hnone : d.exponent.toNat = 0 := by omega
    rw [hnone, pow_zero] at hpower
    convert h using 1
    rw [Decimal.value, ← hpower]
    push_cast
    ring

end Binary64
end Gleaner
