import Gleaner.Proofs.Json.NumberText
/-!
# Rounding keeps the order

Rounding never turns two quotients round, though it may make them equal. For integers this happens
only from `2 ^ 53` on, where the format has gaps between them.

* `magnitude_of_nearest` and `magnitude_le_of_le`: the value that a quotient is rounded to grows
  with the quotient;
* `Finite.scaled_ofInt_mono`: so does the binary number of an integer;
* `Finite.scaled_ofInt_of_le`: up to `2 ^ 53` it is the integer;
* `Finite.scaled_ofInt_lt`: below that, an integer shares its binary number with no other.
-/

namespace Gleaner
namespace Binary64

variable {x y : Finite} {num num' den : Nat}

/-! ## Quotients -/

/-- A larger numerator rounds to no smaller quotient, ties to even included. -/
theorem roundedQuotient_mono (h : num ≤ num') :
    roundedQuotient num den ≤ roundedQuotient num' den := by
  have hquotient : num / den ≤ num' / den := Nat.div_le_div_right h
  rcases Nat.lt_or_eq_of_le hquotient with hlt | heq
  · have hhigh := (roundedQuotient_bounds num den).2
    have hlow := (roundedQuotient_bounds num' den).1
    omega
  · -- with one quotient, the order is that of the rests
    have hsplit := Nat.div_add_mod num den
    have hsplit' := Nat.div_add_mod num' den
    rw [heq] at hsplit
    unfold roundedQuotient
    dsimp only
    rw [heq]
    split_ifs <;> omega

/-- How often the significand is doubled that a quotient is rounded to. -/
def doublings (num den : Nat) : Nat :=
  (num / den).log2 - 52

theorem log2_mono {m n : Nat} (h : m ≤ n) : m.log2 ≤ n.log2 := by
  rw [Nat.log2_eq_log_two, Nat.log2_eq_log_two]
  exact Nat.log_mono_right h

theorem doublings_mono (h : num ≤ num') : doublings num den ≤ doublings num' den :=
  Nat.sub_le_sub_right (log2_mono (Nat.div_le_div_right h)) 52

/-- The rounded significand has at most 53 bits, or is the least integer that has more. -/
theorem significand_bounds (num den : Nat) :
    roundedQuotient num (den * 2 ^ doublings num den) ≤ 2 ^ 53 ∧
      (doublings num den ≠ 0 →
        2 ^ 52 ≤ roundedQuotient num (den * 2 ^ doublings num den)) := by
  rcases roundedQuotient_bounds num (den * 2 ^ doublings num den) with ⟨hlow, hhigh⟩
  rw [← Nat.div_div_eq_div_mul] at hlow hhigh
  rcases leadingBits_bounds (num / den) with ⟨hshort, hlong⟩
  exact ⟨hhigh.trans hshort, fun hpositive => (hlong hpositive).trans hlow⟩

/-- Putting a number together from its parts does not change what the parts stand for. -/
theorem magnitude_of_ofParts {negative : Bool} {m e : Nat}
    (h : ofParts negative m e = .finite x) : x.magnitude = m * 2 ^ e := by
  by_cases hcanonical : Canonical m e
  · rw [ofParts_canonical negative hcanonical] at h
    cases h
    rfl
  · rw [ofParts, dif_neg hcanonical] at h
    cases h

/-- The value that a quotient is rounded to, whether the significand is carried over or not. -/
theorem magnitude_of_nearest {negative : Bool} (h : nearest negative num den = .finite x) :
    x.magnitude = roundedQuotient num (den * 2 ^ doublings num den) * 2 ^ doublings num den := by
  unfold nearest at h
  dsimp only at h
  split at h
  · rename_i hcarry
    rw [magnitude_of_ofParts h, doublings, hcarry]
    ring
  · exact magnitude_of_ofParts h

/-- A larger quotient is rounded to a value that is not smaller. -/
theorem magnitude_le_of_le {negative negative' : Bool} (h : num ≤ num')
    (hx : nearest negative num den = .finite x) (hy : nearest negative' num' den = .finite y) :
    x.magnitude ≤ y.magnitude := by
  rw [magnitude_of_nearest hx, magnitude_of_nearest hy]
  have hdoublings : doublings num den ≤ doublings num' den := doublings_mono h
  rcases Nat.lt_or_eq_of_le hdoublings with hlt | heq
  · -- between the two lies the least significand of 53 bits, doubled as the larger one is
    have hsmaller := (significand_bounds num den).1
    have hlarger := (significand_bounds num' den).2 (Nat.ne_of_gt (Nat.zero_lt_of_lt hlt))
    calc
      _ ≤ 2 ^ 53 * 2 ^ doublings num den := Nat.mul_le_mul_right _ hsmaller
      _ = 2 ^ 52 * 2 ^ (doublings num den + 1) := by ring
      _ ≤ 2 ^ 52 * 2 ^ doublings num' den :=
          Nat.mul_le_mul_left _ (Nat.pow_le_pow_right (by decide) hlt)
      _ ≤ _ := Nat.mul_le_mul_right _ hlarger
  · rw [heq]
    exact Nat.mul_le_mul_right _ (roundedQuotient_mono h)

/-! ## Integers -/

namespace Finite

variable {m n : Int}

theorem scaled_of_negative (h : x.negative = true) : x.scaled = -(x.magnitude : Int) := by
  rw [scaled, h, if_pos rfl]

theorem scaled_of_positive (h : x.negative = false) : x.scaled = x.magnitude := by
  rw [scaled, h]
  rfl

theorem magnitude_ofInt_le (hm : m.natAbs ≤ 2 ^ 64) (hn : n.natAbs ≤ 2 ^ 64)
    (h : m.natAbs ≤ n.natAbs) : (ofInt m).magnitude ≤ (ofInt n).magnitude :=
  magnitude_le_of_le (Nat.mul_le_mul_right unitsPerOne h) (exists_ofInt hm).1 (exists_ofInt hn).1

/-- The binary number of a larger integer is not smaller. -/
theorem scaled_ofInt_mono (hm : m.natAbs ≤ 2 ^ 64) (hn : n.natAbs ≤ 2 ^ 64) (h : m ≤ n) :
    (ofInt m).scaled ≤ (ofInt n).scaled := by
  have hsignm := (exists_ofInt hm).2
  have hsignn := (exists_ofInt hn).2
  rcases lt_or_ge n 0 with hneg | hpos
  · -- both are negative, so the magnitudes stand the other way round
    rw [scaled_of_negative (hsignm.trans (by simp; omega)),
      scaled_of_negative (hsignn.trans (by simp; omega))]
    have hle := magnitude_ofInt_le hn hm (by omega)
    omega
  · rw [scaled_of_positive (x := ofInt n) (hsignn.trans (by simp; omega))]
    rcases lt_or_ge m 0 with hneg | hpos'
    · rw [scaled_of_negative (hsignm.trans (by simp; omega))]
      omega
    · rw [scaled_of_positive (hsignm.trans (by simp; omega))]
      exact Int.ofNat_le.2 (magnitude_ofInt_le hm hn (by omega))

/-- Up to `2 ^ 53` an integer is its binary number. -/
theorem scaled_ofInt_of_le (hn : n.natAbs ≤ 2 ^ 53) : (ofInt n).scaled = n * unitsPerOne := by
  rcases Nat.lt_or_eq_of_le hn with hlt | heq
  · exact scaled_ofInt hlt
  · rcases Int.natAbs_eq n with hpos | hneg
    · rw [hpos, heq]
      decide +kernel
    · rw [hneg, heq]
      decide +kernel

/-- Above an integer below `2 ^ 53` all binary numbers are greater than its own. -/
theorem scaled_ofInt_lt (hm : m.natAbs ≤ 2 ^ 64) (hn : n.natAbs ≤ 2 ^ 64)
    (hexact : m.natAbs < 2 ^ 53 ∨ n.natAbs < 2 ^ 53) (h : m < n) :
    (ofInt m).scaled < (ofInt n).scaled := by
  have hunits : (0 : Int) < unitsPerOne := Int.natCast_pos.2 unitsPerOne_pos
  rcases hexact with hexact | hexact
  · have hnext : (m + 1).natAbs ≤ 2 ^ 53 := by omega
    calc
      (ofInt m).scaled = m * unitsPerOne := scaled_ofInt hexact
      _ < (m + 1) * unitsPerOne := Int.mul_lt_mul_of_pos_right (Int.lt_succ m) hunits
      _ = (ofInt (m + 1)).scaled := (scaled_ofInt_of_le hnext).symm
      _ ≤ (ofInt n).scaled := scaled_ofInt_mono (by omega) hn h
  · have hlast : (n - 1).natAbs ≤ 2 ^ 53 := by omega
    calc
      (ofInt m).scaled ≤ (ofInt (n - 1)).scaled := scaled_ofInt_mono hm (by omega) (by omega)
      _ = (n - 1) * unitsPerOne := scaled_ofInt_of_le hlast
      _ < n * unitsPerOne := Int.mul_lt_mul_of_pos_right (by omega) hunits
      _ = (ofInt n).scaled := (scaled_ofInt hexact).symm

/-- Zero lies between the binary numbers of integers of different signs. -/
theorem scaled_ofInt_lt_of_signs (hm : m.natAbs ≤ 2 ^ 64) (hn : n.natAbs ≤ 2 ^ 64) (hneg : m < 0)
    (hpos : 0 ≤ n) : (ofInt m).scaled < (ofInt n).scaled :=
  Int.lt_of_lt_of_le (scaled_ofInt_lt hm (by decide) (.inr (by decide)) hneg)
    (scaled_ofInt_mono (by decide) hn hpos)

/-- The binary numbers of two integers have one value only if they are the same. -/
theorem ofInt_eq_iff (hm : m.natAbs ≤ 2 ^ 64) (hn : n.natAbs ≤ 2 ^ 64) :
    ofInt m = ofInt n ↔ (ofInt m).scaled = (ofInt n).scaled := by
  refine ⟨fun h => by rw [h], fun h => eq_of_scaled ?_ h⟩
  rw [(exists_ofInt hm).2, (exists_ofInt hn).2]
  refine decide_eq_decide.2 ⟨fun hneg => ?_, fun hneg => ?_⟩
  · by_contra hpos
    have hlt := scaled_ofInt_lt_of_signs hm hn hneg (Int.not_lt.1 hpos)
    exact Int.ne_of_lt hlt h
  · by_contra hpos
    have hlt := scaled_ofInt_lt_of_signs hn hm hneg (Int.not_lt.1 hpos)
    exact Int.ne_of_lt hlt h.symm

end Finite
end Binary64
end Gleaner
