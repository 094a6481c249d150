import Gleaner.Proofs.Json.NumberText
import Gleaner.Proofs.Query.Errors
/-!
# Arithmetic on numbers

Arithmetic on two numbers gives a number or fails with one of two errors, and only the remainder of
the least 64-bit integer by minus one does neither.

* `IsRemainder` says what the remainder of two 64-bit integers is, and `exists_isRemainder_iff` for
  which of them there is one;
* `combine_mod_cases`: a remainder is taken only where there is one;
* `combine_numbers_iff`: where arithmetic gives a number or an error of evaluation;
* `not_combine_numbers`: it does not do so everywhere.
-/

namespace Gleaner
namespace Query

/-! ## Numbers as results -/

/-- A number that comes from a binary number is within the range of one. -/
theorem inRange_ofFinite (x : Binary64.Finite) : (Number.ofFinite x).InRange := by
  unfold Number.ofFinite
  split
  · -- an integer is made below `2 ^ 53` only
    rename_i h
    have hrange := h.2
    unfold Number.exactBound at hrange
    unfold Number.InRange Number.leastInteger Number.integerBound
    dsimp only
    omega
  · trivial

/-- Arithmetic gives a number that a document can hold, or an error of evaluation. -/
def IsNumberOrError (outcome : Except Error Json) : Prop :=
  (∃ k : Number, outcome = .ok (.number k) ∧ k.InRange) ∨ outcome = .error (.mismatch .overflow) ∨
    outcome = .error (.mismatch .divisionByZero)

/-- A result out of range is an error of the run. -/
theorem isNumberOrError_numeric (x : Binary64) : IsNumberOrError (numeric x) := by
  cases x with
  | finite x => exact .inl ⟨Number.ofFinite x, rfl, inRange_ofFinite x⟩
  | infinite negative => exact .inr (.inl rfl)
  | nan => exact .inr (.inl rfl)

theorem not_isNumberOrError_remainderOverflow :
    ¬ IsNumberOrError (.error .remainderOverflow) := by
  rintro (⟨k, hk, _⟩ | h | h)
  · cases hk
  · cases h
  · cases h

/-! ## The remainder of integers -/

/--
A remainder of two 64-bit integers: the divisor is not zero, the quotient has 64 bits, and the
remainder is closer to zero than the divisor and on the side of the dividend.
-/
structure IsRemainder (dividend divisor k : Int) : Prop where
  divisor_ne : divisor ≠ 0
  quotient : ∃ q, dividend = divisor * q + k ∧ leastInt64 ≤ q ∧ q ≤ greatestInt64
  small : k.natAbs < divisor.natAbs
  nonneg : 0 ≤ dividend → 0 ≤ k
  nonpos : dividend ≤ 0 → k ≤ 0

theorem toInt64_bounds (n : Int) : leastInt64 ≤ toInt64 n ∧ toInt64 n ≤ greatestInt64 := by
  unfold toInt64 leastInt64 greatestInt64
  omega

/-- The truncated quotient of two 64-bit integers has 64 bits but for one pair. -/
theorem tdiv_bounds {l r : Int} (hl : leastInt64 ≤ l ∧ l ≤ greatestInt64) (hr : r ≠ 0)
    (hpair : ¬ (l = leastInt64 ∧ r = -1)) :
    leastInt64 ≤ l.tdiv r ∧ l.tdiv r ≤ greatestInt64 := by
  unfold leastInt64 greatestInt64 at *
  by_cases hone : r.natAbs = 1
  · rcases Int.natAbs_eq r with hpos | hneg
    · rw [hpos, hone]
      simpa using hl
    · rw [hneg, hone]
      have hquotient : l.tdiv (-(1 : Nat)) = -l := by simp
      rw [hquotient]
      omega
  · -- a divisor of two or more leaves half of the dividend
    have hhalf : (l.tdiv r).natAbs ≤ l.natAbs / 2 := by
      rw [Int.natAbs_tdiv]
      exact Nat.div_le_div_left (by omega) (by decide)
    omega

/-- The truncated remainder is one, but for the single pair that has none in 64 bits. -/
theorem isRemainder_tmod {l r : Int} (hl : leastInt64 ≤ l ∧ l ≤ greatestInt64) (hr : r ≠ 0)
    (hpair : ¬ (l = leastInt64 ∧ r = -1)) : IsRemainder l r (l.tmod r) where
  divisor_ne := hr
  quotient := ⟨l.tdiv r, (Int.mul_tdiv_add_tmod l r).symm, tdiv_bounds hl hr hpair⟩
  small := by
    rw [Int.natAbs_tmod]
    exact Nat.mod_lt _ (Int.natAbs_pos.2 hr)
  nonneg h := Int.tmod_nonneg r h
  nonpos h := by
    have hneg := Int.tmod_nonneg r (Int.neg_nonneg_of_nonpos h)
    rw [Int.neg_tmod] at hneg
    omega

/-- Two 64-bit integers have a remainder but for a divisor of zero and one pair. -/
theorem exists_isRemainder_iff {l r : Int} (hl : leastInt64 ≤ l ∧ l ≤ greatestInt64) :
    (∃ k, IsRemainder l r k) ↔ r ≠ 0 ∧ ¬ (l = leastInt64 ∧ r = -1) := by
  constructor
  · rintro ⟨k, hk⟩
    refine ⟨hk.divisor_ne, ?_⟩
    rintro ⟨rfl, rfl⟩
    -- minus one leaves no remainder, and the quotient is one too large
    rcases hk.quotient with ⟨q, hq, _, hhigh⟩
    have hsmall := hk.small
    unfold leastInt64 greatestInt64 at *
    omega
  · rintro ⟨hr, hpair⟩
    exact ⟨l.tmod r, isRemainder_tmod hl hr hpair⟩

/-! ## The remainder of numbers -/

/-- The remainder of two binary numbers is the one of their integers, which are cut to 64 bits. -/
theorem remainder_cases (l r : Binary64.Finite) :
    (toInt64 r.trunc = 0 ∧ remainder l r = .error (.mismatch .divisionByZero)) ∨
      (toInt64 l.trunc = leastInt64 ∧ toInt64 r.trunc = -1 ∧
        remainder l r = .error .remainderOverflow) ∨
      ∃ k, IsRemainder (toInt64 l.trunc) (toInt64 r.trunc) k ∧
        remainder l r = .ok (.number (.ofFinite (Binary64.Finite.ofInt k))) := by
  have hl := toInt64_bounds l.trunc
  have hr := toInt64_bounds r.trunc
  unfold remainder
  generalize toInt64 l.trunc = dividend at hl ⊢
  generalize toInt64 r.trunc = divisor at hr ⊢
  dsimp only
  split
  · rename_i hzero
    exact .inl ⟨hzero, rfl⟩
  · rename_i hzero
    split
    · rename_i hpair
      exact .inr (.inl ⟨hpair.1, hpair.2, rfl⟩)
    · rename_i hpair
      have hk := isRemainder_tmod hl hzero hpair
      -- the remainder has 64 bits, so the nearest binary number is finite
      have hrange : (dividend.tmod divisor).natAbs ≤ 2 ^ 64 := by
        have hsmall := hk.small
        unfold leastInt64 greatestInt64 at hr
        omega
      refine .inr (.inr ⟨_, hk, ?_⟩)
      rw [(Binary64.exists_ofInt hrange).1]
      rfl

/-- A remainder is refused for the divisor, breaks off the run, or is the truncated one. -/
theorem combine_mod_cases (m n : Number) :
    (toInt64 n.toFinite.trunc = 0 ∧
        combine .mod (.number m) (.number n) = .error (.mismatch .divisionByZero)) ∨
      (Critical (.number m) (.number n) ∧
        combine .mod (.number m) (.number n) = .error .remainderOverflow) ∨
      ∃ k, IsRemainder (toInt64 m.toFinite.trunc) (toInt64 n.toFinite.trunc) k ∧
        combine .mod (.number m) (.number n) =
          .ok (.number (.ofFinite (Binary64.Finite.ofInt k))) := by
  have hcombine : combine .mod (.number m) (.number n) =
      combineNumbers .mod m.toFinite n.toFinite := rfl
  rw [hcombine, combineNumbers]
  -- a divisor is compared with zero before it is cut to an integer, and again after that
  cases hzero : n.toFinite.isZero with
  | true =>
      refine .inl ⟨?_, rfl⟩
      rw [trunc_of_isZero hzero]
      decide
  | false =>
      rw [if_neg Bool.false_ne_true]
      rcases remainder_cases m.toFinite n.toFinite with hdivisor | ⟨hl, hr, hends⟩ | hk
      · exact .inl hdivisor
      · exact .inr (.inl ⟨⟨m, n, rfl, rfl, hl, hr⟩, hends⟩)
      · exact .inr (.inr hk)

/-! ## All operators -/

/-- But for the critical pair, arithmetic on numbers gives a number or an error of the run. -/
theorem isNumberOrError_combine {op : Operator} {m n : Number}
    (h : ¬ (op = .mod ∧ Critical (.number m) (.number n))) :
    IsNumberOrError (combine op (.number m) (.number n)) := by
  have hcombine : combine op (.number m) (.number n) =
      combineNumbers op m.toFinite n.toFinite := by cases op <;> rfl
  cases op with
  | add | sub | mul =>
      rw [hcombine, combineNumbers]
      exact isNumberOrError_numeric _
  | div =>
      rw [hcombine, combineNumbers]
      split
      · exact .inr (.inr rfl)
      · exact isNumberOrError_numeric _
  | mod =>
      rcases combine_mod_cases m n with ⟨_, hzero⟩ | ⟨hcritical, _⟩ | ⟨k, _, hk⟩
      · exact .inr (.inr hzero)
      · exact absurd ⟨rfl, hcritical⟩ h
      · exact .inl ⟨_, hk, inRange_ofFinite _⟩

/--
Arithmetic on two numbers gives a number that a document can hold, or fails with an overflow or a
division by zero, except that the remainder of the least 64-bit integer by minus one ends the run.
The operands of a remainder are cut to 64-bit integers, and one is taken only of integers that have
one, so never by zero.
-/
theorem combine_numbers_iff (op : Operator) (m n : Number) :
    (IsNumberOrError (combine op (.number m) (.number n)) ↔
      ¬ (op = .mod ∧ Critical (.number m) (.number n))) ∧
    (combine op (.number m) (.number n) = .error .remainderOverflow ↔
      op = .mod ∧ Critical (.number m) (.number n)) ∧
    ((toInt64 n.toFinite.trunc = 0 ∧
        combine .mod (.number m) (.number n) = .error (.mismatch .divisionByZero)) ∨
      (Critical (.number m) (.number n) ∧
        combine .mod (.number m) (.number n) = .error .remainderOverflow) ∨
      ∃ k, IsRemainder (toInt64 m.toFinite.trunc) (toInt64 n.toFinite.trunc) k ∧
        combine .mod (.number m) (.number n) =
          .ok (.number (.ofFinite (Binary64.Finite.ofInt k)))) := by
  refine ⟨⟨?_, isNumberOrError_combine⟩, ⟨?_, ?_⟩, combine_mod_cases m n⟩
  · -- the end of the run is neither a number nor an error of evaluation
    rintro hnumber ⟨rfl, hcritical⟩
    rw [combine_of_critical hcritical] at hnumber
    exact not_isNumberOrError_remainderOverflow hnumber
  · intro hends
    by_contra hnot
    have hnumber := isNumberOrError_combine hnot
    rw [hends] at hnumber
    exact not_isNumberOrError_remainderOverflow hnumber
  · rintro ⟨rfl, hcritical⟩
    exact combine_of_critical hcritical

/-- The number `-10 ^ 19`, below all 64-bit integers. -/
def belowInt64 : Number :=
  .real ⟨true, 4882812500000000, 1085, by decide⟩

/-- The number `-1.5`. -/
def oneAndAHalfBelowZero : Number :=
  .real ⟨true, 6755399441055744, 1022, by decide⟩

/-- A number below all 64-bit integers has no remainder by one that is truncated to minus one. -/
theorem not_combine_numbers :
    belowInt64.InRange ∧ oneAndAHalfBelowZero.InRange ∧
      combine .mod (.number belowInt64) (.number oneAndAHalfBelowZero) =
        .error .remainderOverflow ∧
      ¬ ∀ (op : Operator) (m n : Number), m.InRange → n.InRange →
        (∃ k, combine op (.number m) (.number n) = .ok (.number k)) ∨
          ∃ e, combine op (.number m) (.number n) = .error e ∧ e.IsOfRun := by
  have hends : combine .mod (.number belowInt64) (.number oneAndAHalfBelowZero) =
      .error .remainderOverflow :=
    combine_of_critical ⟨_, _, rfl, rfl, by decide +kernel, by decide +kernel⟩
  refine ⟨trivial, trivial, hends, fun hall => ?_⟩
  rcases hall .mod belowInt64 oneAndAHalfBelowZero trivial trivial with ⟨k, hk⟩ | ⟨e, he, hrun⟩
  · rw [hends] at hk
    cases hk
  · rw [hends] at he
    cases he
    exact hrun

end Query
end Gleaner
