import Gleaner.Proofs.Binary64.Monotone
import Gleaner.Proofs.Json.Order
/-!
# The order of integers

Numbers are compared by the nearest binary numbers, integers not excepted. So the order of two
integers is never turned round, and it is the wrong one only where the two have one binary number.

* `integerOrder` is the order of two integers as values;
* `integerOrder_eq_iff`: equal in it are the integers with one binary number;
* `integerOrder_exact_iff` says for which integers the order is that of the integers, and
  `ofInt_inj_of_small` that those below `2 ^ 53` are among them.
-/

namespace Gleaner

open Binary64 (Finite)

def integerOrder (m n : Int) : Ordering :=
  Json.compare (.number (.integer m)) (.number (.integer n))

variable {m n : Int}

theorem integerOrder_eq_compare (m n : Int) :
    integerOrder m n = Ord.compare (Finite.ofInt m).scaled (Finite.ofInt n).scaled :=
  rfl

section InRange

variable (hm : (Number.integer m).InRange) (hn : (Number.integer n).InRange)

include hm hn

/-- Rounding never reverses the order of integers. -/
theorem integerOrder_ne_gt (h : m ≤ n) : integerOrder m n ≠ .gt := by
  have hle := Finite.scaled_ofInt_mono (Number.natAbs_le_of_inRange hm)
    (Number.natAbs_le_of_inRange hn) h
  rw [integerOrder_eq_compare, Int.compare_ne_gt]
  exact hle

/-- Equal are the integers with one binary number. -/
theorem integerOrder_eq_iff : integerOrder m n = .eq ↔ Finite.ofInt m = Finite.ofInt n := by
  rw [integerOrder_eq_compare, Int.compare_eq_eq]
  exact (Finite.ofInt_eq_iff (Number.natAbs_le_of_inRange hm)
    (Number.natAbs_le_of_inRange hn)).symm

/-- Integers that round to different numbers are compared as they are. -/
theorem integerOrder_of_lt (h : m < n) (hne : Finite.ofInt m ≠ Finite.ofInt n) :
    integerOrder m n = .lt := by
  have hle := integerOrder_ne_gt hm hn (Int.le_of_lt h)
  have heq := mt (integerOrder_eq_iff hm hn).1 hne
  cases horder : integerOrder m n with
  | lt => rfl
  | eq => exact absurd horder heq
  | gt => exact absurd horder hle

end InRange

theorem integerOrder_swap (m n : Int) : integerOrder n m = (integerOrder m n).swap :=
  @Std.OrientedCmp.eq_swap _ Json.compare _ _ _

/-- The order is that of the integers unless two different ones have one binary number. -/
theorem integerOrder_exact_iff (hm : (Number.integer m).InRange)
    (hn : (Number.integer n).InRange) :
    integerOrder m n = Ord.compare m n ↔ m = n ∨ Finite.ofInt m ≠ Finite.ofInt n := by
  constructor
  · intro hexact
    by_contra hboth
    push Not at hboth
    have horder := (integerOrder_eq_iff hm hn).2 hboth.2
    rw [horder] at hexact
    exact hboth.1 (Int.compare_eq_eq.1 hexact.symm)
  · rintro (rfl | hne)
    · rw [(integerOrder_eq_iff hm hm).2 rfl]
      exact (Int.compare_eq_eq.2 rfl).symm
    · rcases lt_trichotomy m n with hlt | rfl | hgt
      · rw [integerOrder_of_lt hm hn hlt hne, Int.compare_eq_lt.2 hlt]
      · exact absurd rfl hne
      · rw [integerOrder_swap, integerOrder_of_lt hn hm hgt hne.symm, Int.compare_eq_gt.2 hgt]
        rfl

/-- Below `2 ^ 53` an integer has a binary number for itself. -/
theorem ofInt_inj_of_small (hm : (Number.integer m).InRange) (hn : (Number.integer n).InRange)
    (hsmall : m.natAbs < 2 ^ 53 ∨ n.natAbs < 2 ^ 53) :
    Finite.ofInt m = Finite.ofInt n ↔ m = n := by
  refine ⟨fun heq => ?_, fun h => by rw [h]⟩
  have hmbound := Number.natAbs_le_of_inRange hm
  have hnbound := Number.natAbs_le_of_inRange hn
  rcases lt_trichotomy m n with hlt | h | hgt
  · have hscaled := Finite.scaled_ofInt_lt hmbound hnbound hsmall hlt
    rw [heq] at hscaled
    exact absurd hscaled (lt_irrefl _)
  · exact h
  · have hscaled := Finite.scaled_ofInt_lt hnbound hmbound hsmall.symm hgt
    rw [heq] at hscaled
    exact absurd hscaled (lt_irrefl _)

end Gleaner
