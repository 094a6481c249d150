import Gleaner.Proofs.Binary64.Rounding
/-!
# The shortest decimal

The decimal that is written for a number lies in the interval of the reals that round to it. The
search goes through finer and finer grids, and seventeen digits are always enough: on that grid the
step is less than twice the smaller gap of the interval.

* `le_decimalExponent`: the search begins at the first digit of the number;
* `onGrid?_rounds`: what a grid gives lies in the interval;
* `exists_onGrid?`: a grid that is fine enough gives something;
* `rounds_shortest`: the shortest decimal rounds to the number.
-/

namespace Gleaner
namespace Binary64
namespace Finite

variable {x : Finite} {d : Decimal} {exponent : Int}

/-! ## What a grid gives -/

/-- A multiple of the step of a grid, as the search tests it. -/
theorem roundsHere_grid (hx : x.significand ≠ 0) (n : Nat) (exponent : Int) :
    x.roundsHere (n * (quartersPerOne * 10 ^ exponent.toNat)) (10 ^ (-exponent).toNat) = true ↔
      x.Rounds ((⟨n, exponent⟩ : Decimal).value * unitsPerOne) := by
  have hpower := pow_toNat_div_pow_toNat exponent
  have hvalue : ((n * (quartersPerOne * 10 ^ exponent.toNat) : Nat) : ℚ) /
      ((10 ^ (-exponent).toNat : Nat) : ℚ) / 4 =
      (⟨n, exponent⟩ : Decimal).value * unitsPerOne := by
    simp only [Decimal.value]
    rw [← hpower, quartersPerOne]
    push_cast
    ring
  rw [roundsHere_iff hx (Nat.pow_pos (by decide)), hvalue]

/-- A decimal found on the grid of an exponent rounds to the number it was sought for. -/
theorem onGrid?_rounds (hx : x.significand ≠ 0) (h : x.onGrid? exponent = some d) :
    x.Rounds (d.value * unitsPerOne) := by
  have hgrid := fun n => (roundsHere_grid hx n exponent).1
  simp only [onGrid?] at h
  -- a grid gives one of the two points next to the number, and only one that passed the test
  generalize 10 ^ (-exponent).toNat = up at h hgrid
  generalize quartersPerOne * 10 ^ exponent.toNat = step at h hgrid
  generalize 4 * x.magnitude * up = here at h
  cases hlow : x.roundsHere (here / step * step) up with
  | true =>
      cases hhigh : x.roundsHere ((here / step + 1) * step) up with
      | true =>
          rw [hlow, hhigh] at h
          cases h
          split
          · exact hgrid _ hlow
          · exact hgrid _ hhigh
      | false =>
          rw [hlow, hhigh] at h
          cases h
          exact hgrid _ hlow
  | false =>
      cases hhigh : x.roundsHere ((here / step + 1) * step) up with
      | true =>
          rw [hlow, hhigh] at h
          cases h
          exact hgrid _ hhigh
      | false =>
          rw [hlow, hhigh] at h
          cases h

/-! ## Seventeen digits -/

/-- A gap is at most 54 doublings smaller than the number, and the upper gap is no smaller. -/
theorem magnitude_le_gaps (x : Finite) :
    4 * x.magnitude ≤ 2 ^ 54 * x.roundingGaps.1 ∧ x.roundingGaps.1 ≤ x.roundingGaps.2 := by
  have hpower : 0 < 2 ^ x.exponent := Nat.two_pow_pos _
  unfold roundingGaps magnitude
  dsimp only
  by_cases h : x.significand = 2 ^ 52 ∧ x.exponent ≠ 0
  · rw [if_pos h, h.1]
    omega
  · have hle : x.significand * 2 ^ x.exponent ≤ 2 ^ 53 * 2 ^ x.exponent :=
      Nat.mul_le_mul_right _ (Nat.le_of_lt x.canonical.1)
    rw [if_neg h]
    omega

/-- A value closer to the number than both gaps passes the test of the search. -/
theorem roundsHere_of_lt (hx : x.significand ≠ 0) {num den : Nat}
    (hlow : 4 * x.magnitude * den < num + x.roundingGaps.1 * den)
    (hhigh : num < 4 * x.magnitude * den + x.roundingGaps.2 * den) :
    x.roundsHere num den = true := by
  have hbelow : (4 * x.magnitude - x.roundingGaps.1) * den < num := by
    have hle := Nat.mul_le_mul_right den (roundingGaps_fst_le hx)
    rw [Nat.sub_mul]
    omega
  have habove : num < (4 * x.magnitude + x.roundingGaps.2) * den := by
    rwa [Nat.add_mul]
  unfold roundsHere
  dsimp only
  split
  · simp [hbelow.le, habove.le]
  · simp [hbelow, habove]

theorem magnitude_pos (hx : x.significand ≠ 0) : 0 < x.magnitude :=
  Nat.mul_pos (Nat.pos_of_ne_zero hx) (Nat.two_pow_pos _)

/-- A grid whose step is small enough beside the number has a point in the interval. -/
theorem exists_onGrid? (hx : x.significand ≠ 0)
    (hfine : 10 ^ 16 * (quartersPerOne * 10 ^ exponent.toNat) ≤
      4 * x.magnitude * 10 ^ (-exponent).toNat) :
    ∃ d, x.onGrid? exponent = some d := by
  have hpositive := magnitude_pos hx
  rcases x.magnitude_le_gaps with ⟨hgap, hgaps⟩
  have hup : 0 < 10 ^ (-exponent).toNat := Nat.pow_pos (by decide)
  have hstep : 0 < quartersPerOne * 10 ^ exponent.toNat :=
    Nat.mul_pos (Nat.mul_pos (by decide) unitsPerOne_pos) (Nat.pow_pos (by decide))
  simp only [onGrid?]
  generalize 10 ^ (-exponent).toNat = up at *
  generalize quartersPerOne * 10 ^ exponent.toNat = step at *
  -- the lower gap, on the scale of the grid
  have hlower : 4 * x.magnitude * up ≤ 2 ^ 54 * (x.roundingGaps.1 * up) := by
    rw [← Nat.mul_assoc]
    exact Nat.mul_le_mul_right up hgap
  have hupper : x.roundingGaps.1 * up ≤ x.roundingGaps.2 * up := Nat.mul_le_mul_right up hgaps
  have hwide : 0 < x.roundingGaps.1 * up := Nat.mul_pos (by omega) hup
  have hpass : ∀ n : Nat, 4 * x.magnitude * up < n * step + x.roundingGaps.1 * up →
      n * step < 4 * x.magnitude * up + x.roundingGaps.2 * up →
      x.roundsHere (n * step) up = true := fun n => roundsHere_of_lt hx
  generalize 4 * x.magnitude * up = here at *
  have hsplit : here / step * step + here % step = here := Nat.div_add_mod' here step
  have hrest : here % step < step := Nat.mod_lt here hstep
  have hnext : (here / step + 1) * step = here / step * step + step := Nat.succ_mul _ _
  -- the nearer one of the two points is at most half a step away, which is less than a gap
  by_cases hhalf : 2 * (here % step) ≤ step
  · have hlow := hpass (here / step) (by omega) (by omega)
    rw [hlow]
    cases x.roundsHere ((here / step + 1) * step) up with
    | true => exact ⟨_, rfl⟩
    | false => exact ⟨_, rfl⟩
  · have hhigh := hpass (here / step + 1) (by omega) (by omega)
    rw [hhigh]
    cases x.roundsHere (here / step * step) up with
    | true => exact ⟨_, rfl⟩
    | false => exact ⟨_, rfl⟩

/-- Three binary places are fewer than one decimal place. -/
theorem pow_two_le_pow_ten {k n : Nat} (h : k ≤ 3 * n) : 2 ^ k ≤ 10 ^ n :=
  calc
    2 ^ k ≤ 2 ^ (3 * n) := Nat.pow_le_pow_right (by decide) h
    _ = (2 ^ 3) ^ n := Nat.pow_mul 2 3 n
    _ ≤ 10 ^ n := Nat.pow_le_pow_left (by decide) n

theorem unitsPerOne_le : unitsPerOne ≤ 10 ^ 400 := by
  unfold unitsPerOne
  exact pow_two_le_pow_ten (k := 1074) (n := 400) (by decide)

/-- The search begins at a power of ten that is not above the number. -/
theorem le_decimalExponent (hx : x.significand ≠ 0) :
    (10 : ℚ) ^ x.decimalExponent * unitsPerOne ≤ x.magnitude := by
  have hpositive := magnitude_pos hx
  have hten := unitsPerOne_le
  unfold decimalExponent
  generalize hpower : 10 ^ 400 = ten at *
  have hlarge : x.magnitude * ten / unitsPerOne ≠ 0 :=
    Nat.ne_of_gt (Nat.div_pos (hten.trans (Nat.le_mul_of_pos_left _ hpositive)) unitsPerOne_pos)
  have hdigits := (digitCount_bounds hlarge).1
  have hcount : 1 ≤ digitCount (x.magnitude * ten / unitsPerOne) := Nat.length_toDigits_pos
  rw [Nat.le_div_iff_mul_le unitsPerOne_pos] at hdigits
  -- from here on only the number of digits counts
  generalize digitCount (x.magnitude * ten / unitsPerOne) = count at *
  have hcast : (10 : ℚ) ^ (count - 1) * unitsPerOne ≤ x.magnitude * ten := by
    exact_mod_cast hdigits
  have hten' : (ten : ℚ) = 10 ^ 400 := by
    rw [← hpower]
    generalize 400 = n
    push_cast
    rfl
  have hsplit : (10 : ℚ) ^ ((count : Int) - 401) = 10 ^ (count - 1) / ten := by
    rw [hten', ← zpow_natCast, ← zpow_natCast, ← zpow_sub₀ (by norm_num)]
    congr 1
    omega
  rw [hsplit, div_mul_eq_mul_div, div_le_iff₀ (by rw [hten']; positivity)]
  exact hcast

/-- The seventeenth grid of the search is fine enough. -/
theorem exists_onGrid?_seventeen (hx : x.significand ≠ 0) :
    ∃ d, x.onGrid? (x.decimalExponent + 1 - (17 : Nat)) = some d := by
  refine exists_onGrid? hx ?_
  have hfirst := le_decimalExponent hx
  have hpower := pow_toNat_div_pow_toNat (x.decimalExponent + 1 - (17 : Nat))
  have hten : (10 : ℚ) ^ x.decimalExponent =
      10 ^ 16 * 10 ^ (x.decimalExponent + 1 - (17 : Nat)) := by
    rw [← zpow_natCast, ← zpow_add₀ (by norm_num)]
    congr 1
    push_cast
    ring
  rw [hten, ← hpower] at hfirst
  generalize (x.decimalExponent + 1 - (17 : Nat)) = grid at *
  -- the search compares naturals, so the step and the number are scaled by the same power
  have hup : (0 : ℚ) < 10 ^ (-grid).toNat := by positivity
  have hscaled : (10 : ℚ) ^ 16 * (unitsPerOne * 10 ^ grid.toNat) ≤
      x.magnitude * 10 ^ (-grid).toNat := by
    rw [← div_le_iff₀ hup]
    refine le_trans (le_of_eq ?_) hfirst
    ring
  have hnat : 10 ^ 16 * (unitsPerOne * 10 ^ grid.toNat) ≤ x.magnitude * 10 ^ (-grid).toNat := by
    exact_mod_cast hscaled
  calc
    10 ^ 16 * (quartersPerOne * 10 ^ grid.toNat)
        = 4 * (10 ^ 16 * (unitsPerOne * 10 ^ grid.toNat)) := by
          unfold quartersPerOne
          ring
    _ ≤ 4 * (x.magnitude * 10 ^ (-grid).toNat) := Nat.mul_le_mul_left 4 hnat
    _ = 4 * x.magnitude * 10 ^ (-grid).toNat := (Nat.mul_assoc _ _ _).symm

/-! ## The search -/

/-- If some grid of the search gives a decimal, the first one that does is taken. -/
theorem firstGrid_rounds (hx : x.significand ≠ 0) {top : Int} {count digits k : Nat}
    (hk : k < count) (h : ∃ d, x.onGrid? (top + 1 - (digits + k : Nat)) = some d) :
    x.Rounds ((x.firstGrid top count digits).value * unitsPerOne) := by
  -- `k` counts the grids before the one that is known to give a decimal
  induction count generalizing digits k with
  | zero => cases hk
  | succ count ih =>
      unfold firstGrid
      cases hgrid : x.onGrid? (top + 1 - digits) with
      | some d => exact onGrid?_rounds hx hgrid
      | none =>
          cases k with
          | zero =>
              rw [Nat.add_zero, hgrid] at h
              rcases h with ⟨d, hd⟩
              cases hd
          | succ k =>
              refine ih (Nat.lt_of_succ_lt_succ hk) (k := k) ?_
              rwa [Nat.succ_add_eq_add_succ]

end Finite

/-- Trailing zeros that move into the exponent leave the value as it is. -/
theorem Decimal.value_stripped (fuel : Nat) (d : Decimal) : (d.stripped fuel).value = d.value := by
  induction fuel generalizing d with
  | zero => rfl
  | succ fuel ih =>
      unfold stripped
      split
      · rename_i hzero
        have hdigits : d.digits / 10 * 10 = d.digits :=
          Nat.div_mul_cancel (Nat.dvd_of_mod_eq_zero hzero.2)
        have hcast : ((d.digits / 10 : Nat) : ℚ) * 10 = d.digits := by exact_mod_cast hdigits
        rw [ih, value, value, zpow_add_one₀ (by norm_num), ← hcast]
        ring
      · rfl

/-- The decimal that is written for a number rounds to it. -/
theorem Finite.rounds_shortest {x : Finite} (hx : x.significand ≠ 0) :
    x.Rounds (x.shortest.value * unitsPerOne) := by
  have hzero : x.isZero = false := beq_eq_false_iff_ne.2 hx
  unfold shortest
  rw [if_neg (by simp [hzero]), Decimal.value_stripped]
  exact firstGrid_rounds hx (by decide : 16 < 17) (exists_onGrid?_seventeen hx)

end Binary64
end Gleaner
