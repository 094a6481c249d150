import Gleaner.Proofs.Binary64.Numeral
/-!
# Numbers and their texts

A number of a document is written as digits, and digits are read as a binary number. So a number
comes back as the binary number nearest to it, and an integer below `2 ^ 53` as itself.

* `Binary64.exists_finite_nearest`: what is not too large is rounded to a finite number;
* `Number.exists_numeral`: a number is written, but for its sign, as a numeral that is read as the
  binary number nearest to it;
* `Number.scaled_toFinite_ofFinite`: a binary number keeps its value when it becomes an integer;
* `Number.ofFinite_ofInt`: a small integer comes back from the binary number nearest to it.
-/

namespace Gleaner
namespace Binary64

variable {x y : Finite} {num den : Nat}

/-! ## Signs -/

/-- The sign takes no part in rounding. -/
theorem nearest_withSign {negative : Bool} (h : nearest negative num den = .finite x)
    (other : Bool) : nearest other num den = .finite (x.withSign other) := by
  have hparts : ∀ m e, ofParts negative m e = .finite x →
      ofParts other m e = .finite (x.withSign other) := by
    intro m e hparts
    by_cases hcanonical : Canonical m e
    · rw [ofParts_canonical negative hcanonical] at hparts
      cases hparts
      exact ofParts_canonical other hcanonical
    · rw [ofParts, dif_neg hcanonical] at hparts
      cases hparts
  -- the significand and the exponent are found without the sign
  unfold nearest at h ⊢
  dsimp only at h ⊢
  split at h
  · rename_i hcarry
    rw [if_pos hcarry]
    exact hparts _ _ h
  · rename_i hcarry
    rw [if_neg hcarry]
    exact hparts _ _ h

/-! ## Integers in range -/

/-- A rounded quotient is the whole quotient or one more. -/
theorem roundedQuotient_bounds (num den : Nat) :
    num / den ≤ roundedQuotient num den ∧ roundedQuotient num den ≤ num / den + 1 := by
  unfold roundedQuotient
  dsimp only
  split
  · omega
  · split
    · omega
    · omega

/-- The leading 53 bits of an integer; a shorter integer is kept whole. -/
theorem leadingBits_bounds (n : Nat) :
    n / 2 ^ (n.log2 - 52) < 2 ^ 53 ∧ (n.log2 - 52 ≠ 0 → 2 ^ 52 ≤ n / 2 ^ (n.log2 - 52)) := by
  constructor
  · rw [Nat.div_lt_iff_lt_mul (Nat.two_pow_pos _), ← Nat.pow_add]
    refine Nat.lt_of_lt_of_le Nat.lt_log2_self ?_
    exact Nat.pow_le_pow_right (by decide) (by omega)
  · intro hpositive
    have hne : n ≠ 0 := by
      rintro rfl
      exact hpositive (by decide)
    rw [Nat.le_div_iff_mul_le (Nat.two_pow_pos _), ← Nat.pow_add,
      show 52 + (n.log2 - 52) = n.log2 by omega]
    exact Nat.log2_self_le hne

/-- What is not too large is rounded to a finite number. -/
theorem exists_finite_nearest (hrange : (num / den).log2 ≤ 2096) (negative : Bool) :
    ∃ x : Finite, nearest negative num den = .finite x ∧ x.negative = negative := by
  rcases roundedQuotient_bounds num (den * 2 ^ ((num / den).log2 - 52)) with ⟨hlow, hhigh⟩
  rw [← Nat.div_div_eq_div_mul] at hlow hhigh
  rcases leadingBits_bounds (num / den) with ⟨hshort, hlong⟩
  unfold nearest
  dsimp only
  split
  · -- rounded up to 54 bits, the significand is halved, which the range leaves room for
    have hcanonical : Canonical (2 ^ 52) ((num / den).log2 - 52 + 1) :=
      ⟨by decide, by omega, .inr (Nat.le_refl _)⟩
    exact ⟨_, ofParts_canonical negative hcanonical, rfl⟩
  · rename_i hcarry
    have hcanonical : Canonical (roundedQuotient num (den * 2 ^ ((num / den).log2 - 52)))
        ((num / den).log2 - 52) := by
      refine ⟨by omega, by omega, ?_⟩
      by_cases hzero : (num / den).log2 - 52 = 0
      · exact .inl hzero
      · exact .inr ((hlong hzero).trans hlow)
    exact ⟨_, ofParts_canonical negative hcanonical, rfl⟩

/-- A shift by `b` places adds `b` to the logarithm. -/
theorem log2_mul_pow_le {n a : Nat} (hn : n ≤ 2 ^ a) (b : Nat) : (n * 2 ^ b).log2 ≤ a + b := by
  by_cases hzero : n = 0
  · rw [hzero, Nat.zero_mul]
    exact Nat.zero_le _
  · have hne : n * 2 ^ b ≠ 0 := Nat.mul_ne_zero hzero (Nat.ne_of_gt (Nat.two_pow_pos b))
    refine Nat.le_of_lt_succ ((Nat.log2_lt hne).2 ?_)
    calc
      n * 2 ^ b ≤ 2 ^ a * 2 ^ b := Nat.mul_le_mul_right _ hn
      _ = 2 ^ (a + b) := (Nat.pow_add 2 a b).symm
      _ < 2 ^ (a + b + 1) := Nat.pow_lt_pow_right (by decide) (Nat.lt_succ_self _)

/-- The binary number nearest to an integer of 64 bits is finite. -/
theorem exists_ofInt {n : Int} (hn : n.natAbs ≤ 2 ^ 64) :
    ofInt n = .finite (Finite.ofInt n) ∧ (Finite.ofInt n).negative = decide (n < 0) := by
  have hrange : (n.natAbs * unitsPerOne / 1).log2 ≤ 2096 := by
    have hlog := log2_mul_pow_le hn 1074
    rw [Nat.div_one, unitsPerOne]
    exact hlog.trans (by decide)
  rcases exists_finite_nearest hrange (decide (n < 0)) with ⟨x, hx, hsign⟩
  have hofInt : ofInt n = .finite x := hx
  have hfinite : Finite.ofInt n = x := by
    rw [Finite.ofInt, hofInt]
    rfl
  rw [hfinite]
  exact ⟨hofInt, hsign⟩

/-- Without its sign, the binary number nearest to an integer is that of the absolute value. -/
theorem ofInt_natAbs {n : Int} (hn : n.natAbs ≤ 2 ^ 64) :
    ofInt n.natAbs = .finite ((Finite.ofInt n).withSign false) := by
  have hnearest : nearest (decide (n < 0)) (n.natAbs * unitsPerOne) 1 =
      .finite (Finite.ofInt n) := (exists_ofInt hn).1
  have hsign : decide ((n.natAbs : Int) < 0) = false := by simp
  rw [ofInt, hsign, Int.natAbs_natCast]
  exact nearest_withSign hnearest false

/-! ## Values in units -/

/-- Of two exponents for one magnitude, the larger one would belong to a full significand. -/
theorem Finite.exponent_le_of_magnitude (h : x.magnitude = y.magnitude) :
    y.exponent ≤ x.exponent := by
  by_contra hlt
  rcases Nat.exists_eq_add_of_lt (Nat.lt_of_not_le hlt) with ⟨k, hk⟩
  have hfull : 2 ^ 52 ≤ y.significand := y.canonical.2.2.resolve_left (by omega)
  have hsplit : y.significand * 2 ^ y.exponent =
      y.significand * 2 ^ (k + 1) * 2 ^ x.exponent := by
    rw [hk, Nat.mul_assoc, ← Nat.pow_add]
    congr 2
    omega
  have hequal : x.significand = y.significand * 2 ^ (k + 1) := by
    unfold magnitude at h
    rw [hsplit] at h
    exact Nat.eq_of_mul_eq_mul_right (Nat.two_pow_pos _) h
  have hdouble : y.significand * 2 ≤ y.significand * 2 ^ (k + 1) := by
    refine Nat.mul_le_mul_left _ ?_
    rw [Nat.pow_succ]
    exact Nat.le_mul_of_pos_left 2 (Nat.two_pow_pos k)
  -- twice a full significand is out of range for the other number
  have hrange := x.canonical.1
  omega

/-- A number is determined by its sign and its magnitude. -/
theorem Finite.eq_of_magnitude (hsign : x.negative = y.negative)
    (h : x.magnitude = y.magnitude) : x = y := by
  have hexponent : x.exponent = y.exponent :=
    Nat.le_antisymm (exponent_le_of_magnitude h.symm) (exponent_le_of_magnitude h)
  have hsignificand : x.significand = y.significand := by
    unfold magnitude at h
    rw [hexponent] at h
    exact Nat.eq_of_mul_eq_mul_right (Nat.two_pow_pos _) h
  cases x
  cases y
  simp_all

theorem Finite.scaled_natAbs (x : Finite) : x.scaled.natAbs = x.magnitude := by
  unfold scaled
  split <;> simp

theorem Finite.eq_of_scaled (hsign : x.negative = y.negative) (h : x.scaled = y.scaled) :
    x = y := by
  refine eq_of_magnitude hsign ?_
  rw [← x.scaled_natAbs, ← y.scaled_natAbs, h]

/-- An integer of at most 53 bits has its value. -/
theorem Finite.scaled_ofInt {n : Int} (hn : n.natAbs < 2 ^ 53) :
    (Finite.ofInt n).scaled = n * unitsPerOne := by
  rcases ofInt_exact hn with ⟨x, hx, hsign, hmagnitude⟩
  have hfinite : Finite.ofInt n = x := by
    rw [Finite.ofInt, hx]
    rfl
  rw [hfinite, scaled, hsign, hmagnitude]
  by_cases hneg : n < 0
  · have habs : (n.natAbs : Int) = -n := by omega
    simp only [hneg, decide_true, if_true, Int.natCast_mul, habs, Int.neg_mul, Int.neg_neg]
  · have habs : (n.natAbs : Int) = n := by omega
    simp only [hneg, decide_false, Bool.false_eq_true, if_false, Int.natCast_mul, habs]

theorem Finite.scaled_of_isIntegral (h : x.isIntegral = true) :
    x.scaled = x.trunc * unitsPerOne := by
  have hdvd : (unitsPerOne : Int) ∣ x.scaled := by
    rw [Int.natCast_dvd, x.scaled_natAbs]
    exact Nat.dvd_of_mod_eq_zero (beq_iff_eq.1 h)
  exact (Int.tdiv_mul_cancel hdvd).symm

end Binary64

/-! ## Numbers -/

namespace Number

open Binary64 (Finite Numeral)

/-- A binary number keeps its value when it becomes an integer. -/
theorem scaled_toFinite_ofFinite (x : Finite) : (ofFinite x).toFinite.scaled = x.scaled := by
  unfold ofFinite
  split
  · -- only an integer below `2 ^ 53` is kept as one, so the way back is exact
    rename_i h
    have hsmall : x.trunc.natAbs < 2 ^ 53 := by
      have hrange := h.2
      unfold exactBound at hrange
      omega
    exact (Finite.scaled_ofInt hsmall).trans (Finite.scaled_of_isIntegral h.1).symm
  · rfl

/-- A binary number without a sign comes back from the integer that it becomes. -/
theorem toFinite_ofFinite {x : Finite} (hx : x.negative = false) : (ofFinite x).toFinite = x := by
  -- the values agree anyway; without a sign, so do the signs of zeros
  refine Finite.eq_of_scaled ?_ (scaled_toFinite_ofFinite x)
  unfold ofFinite
  split
  · rename_i h
    have hsmall : x.trunc.natAbs ≤ 2 ^ 64 := by
      have hrange := h.2
      unfold exactBound at hrange
      omega
    have hscaled : 0 ≤ x.scaled := by simp [Finite.scaled, hx]
    have htrunc : 0 ≤ x.trunc := Int.tdiv_nonneg hscaled (Int.natCast_nonneg _)
    rw [hx]
    exact (Binary64.exists_ofInt hsmall).2.trans (decide_eq_false (Int.not_lt.2 htrunc))
  · rfl

/-- A small integer comes back from the binary number nearest to it. -/
theorem ofFinite_ofInt {n : Int} (hn : n.natAbs < 2 ^ 53) :
    ofFinite (Finite.ofInt n) = .integer n := by
  have hunits : (Binary64.unitsPerOne : Int) ≠ 0 :=
    Int.natCast_ne_zero.2 (Nat.ne_of_gt Binary64.unitsPerOne_pos)
  have hscaled := Finite.scaled_ofInt hn
  have htrunc : (Finite.ofInt n).trunc = n := by
    rw [Finite.trunc, hscaled, Int.mul_tdiv_cancel _ hunits]
  have hintegral : (Finite.ofInt n).isIntegral = true := by
    have hmagnitude := congrArg Int.natAbs hscaled
    rw [Finite.scaled_natAbs, Int.natAbs_mul, Int.natAbs_natCast] at hmagnitude
    rw [Finite.isIntegral, hmagnitude, Nat.mul_mod_left]
    rfl
  have hrange : -exactBound < n ∧ n < exactBound := by
    unfold exactBound
    omega
  rw [ofFinite, htrunc, if_pos ⟨hintegral, hrange⟩]

theorem natAbs_le_of_inRange {n : Int} (h : (integer n).InRange) : n.natAbs ≤ 2 ^ 64 := by
  have hrange : -(2 ^ 63) ≤ n ∧ n < 2 ^ 64 := h
  omega

/-- An integer is written as the digits of its absolute value, after a sign if it has one. -/
theorem toList_toString_int (n : Int) :
    (toString n).toList = (if n < 0 then ['-'] else []) ++ Nat.toDigits 10 n.natAbs := by
  rw [Int.toString_eq_repr, Int.repr_eq_if]
  by_cases hsign : n < 0
  · have habs : (-n).toNat = n.natAbs := by omega
    rw [if_pos hsign, if_neg (Int.not_le.2 hsign), String.toList_append, Nat.toList_repr, habs]
    rfl
  · have habs : n.toNat = n.natAbs := by omega
    rw [if_neg hsign, if_pos (Int.not_lt.1 hsign), Nat.toList_repr, habs]
    rfl

/-- The digits of an integer are a numeral that is read as the binary number nearest to it. -/
theorem exists_numeral_integer {n : Int} (h : (integer n).InRange) :
    ∃ m : Numeral, (toString n).toList = (if n < 0 then ['-'] else []) ++ m.text ∧
      Binary64.ofText? m.text = some (.finite ((Finite.ofInt n).withSign false)) := by
  have hdigits := Json.areDigits_toDigits n.natAbs
  have hbound := natAbs_le_of_inRange h
  refine ⟨⟨Nat.toDigits 10 n.natAbs, [], none, hdigits, nofun⟩, ?_, ?_⟩
  · have htext : (⟨Nat.toDigits 10 n.natAbs, [], none, hdigits, nofun⟩ : Numeral).text =
        Nat.toDigits 10 n.natAbs := List.append_nil _
    rw [htext, toList_toString_int]
  · -- the digits are those of the absolute value, as a decimal without an exponent
    rw [Numeral.ofText?_text, ← Binary64.ofInt_natAbs hbound, ← Binary64.ofDecimal_natural hbound]
    simp [Numeral.decimal, Binary64.digitsValue_toDigits]

/-- But for its sign, a number is written as a numeral that is read as its binary number. -/
theorem exists_numeral {n : Number} (h : n.InRange) :
    ∃ m : Numeral, n.written.toList = (if n.toFinite.negative then ['-'] else []) ++ m.text ∧
      Binary64.ofText? m.text = some (.finite (n.toFinite.withSign false)) := by
  cases n with
  | real x => exact x.exists_numeral _
  | integer n =>
      rcases exists_numeral_integer h with ⟨m, htext, hread⟩
      refine ⟨m, ?_, hread⟩
      have hsign := (Binary64.exists_ofInt (natAbs_le_of_inRange h)).2
      rw [toFinite, hsign]
      simpa [written] using htext

end Number
end Gleaner
