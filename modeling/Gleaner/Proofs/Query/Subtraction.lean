import Gleaner.Proofs.Json.Sameness
import Gleaner.Query.Operators
/-!
# Subtraction of arrays

Subtraction leaves out the items that are the same as an item of the right array, and `==` asks for
equality in the order. The two differ on values that are equal but have different numbers.

* `EqualIn` and `SameIn` say that an array holds an equal item, or one that is the same;
* `combine_sub_arrays`: what subtraction leaves, and where that is what `==` asks for;
* `combine_sub_of_isNormal`: it is so where all numbers are in the form that arithmetic gives them.
-/

namespace Gleaner
namespace Query

/-! ## Items of arrays -/

/-- Some item of a list is equal to a value, as `==` tells. -/
def EqualIn (r : List Json) (x : Json) : Prop :=
  ∃ y ∈ r, x.compare y = .eq

/-- Some item of a list is equal to a value and has the same numbers, without conversion. -/
def SameIn (r : List Json) (x : Json) : Prop :=
  ∃ y ∈ r, x.compare y = .eq ∧ x.SameNumbers y

instance (r : List Json) : DecidablePred (EqualIn r) :=
  fun x => inferInstanceAs (Decidable (∃ y ∈ r, x.compare y = .eq))

instance (r : List Json) : DecidablePred (SameIn r) :=
  fun x => inferInstanceAs (Decidable (∃ y ∈ r, x.compare y = .eq ∧ x.SameNumbers y))

variable {r : List Json} {x : Json}

theorem EqualIn.of_sameIn (h : SameIn r x) : EqualIn r x := by
  rcases h with ⟨y, hy, heq, _⟩
  exact ⟨y, hy, heq⟩

theorem any_same_eq : r.any (Json.same x) = decide (SameIn r x) := by
  rw [Bool.eq_iff_iff, decide_eq_true_iff, List.any_eq_true]
  exact exists_congr fun y => and_congr_right fun _ => Json.same_iff x y

/-! ## What is left -/

/-- The items that equal none of a list are left, and some that equal one may be. -/
theorem filter_same_eq_filter_equal_iff (l r : List Json) :
    (l.filter fun x => ¬ SameIn r x) = (l.filter fun x => ¬ EqualIn r x) ↔
      ∀ x ∈ l, EqualIn r x → SameIn r x := by
  constructor
  · intro h x hx hequal
    by_contra hsame
    -- an item that equals one but is the same as none would be left
    have hleft : x ∈ l.filter fun x => ¬ SameIn r x :=
      List.mem_filter.2 ⟨hx, decide_eq_true hsame⟩
    rw [h] at hleft
    exact of_decide_eq_true (List.mem_filter.1 hleft).2 hequal
  · intro h
    refine List.filter_congr fun x hx => ?_
    have hiff : SameIn r x ↔ EqualIn r x := ⟨.of_sameIn, h x hx⟩
    simp only [hiff]

/-- The items without a same one on the right are left, in their order. -/
theorem combine_sub_eq (l r : List Json) :
    combine .sub (.array l) (.array r) = .ok (.array (l.filter fun x => ¬ SameIn r x)) := by
  have hcombine : combine .sub (.array l) (.array r) =
      .ok (.array (l.filter fun x => !r.any (Json.same x))) := rfl
  simp only [hcombine, any_same_eq, decide_not]

/--
Subtraction of arrays leaves, in order, the items of the left array that no item of the right one
equals, and those whose equals there have other numbers. It leaves just the items that equal none,
so that no item left is equal to one of the right array, where each item of the left array that
equals one of the right array equals one with the same numbers, and only there.
-/
theorem combine_sub_arrays (l r : List Json) :
    combine .sub (.array l) (.array r) = .ok (.array (l.filter fun x => ¬ SameIn r x)) ∧
    (combine .sub (.array l) (.array r) = .ok (.array (l.filter fun x => ¬ EqualIn r x)) ↔
      ∀ x ∈ l, EqualIn r x → SameIn r x) ∧
    ((∀ x ∈ l.filter fun x => ¬ SameIn r x, ¬ EqualIn r x) ↔
      ∀ x ∈ l, EqualIn r x → SameIn r x) := by
  refine ⟨combine_sub_eq l r, ?_, ?_⟩
  · rw [combine_sub_eq, Except.ok.injEq, Json.array.injEq]
    exact filter_same_eq_filter_equal_iff l r
  · constructor
    · intro h x hx hequal
      by_contra hsame
      exact h x (List.mem_filter.2 ⟨hx, decide_eq_true hsame⟩) hequal
    · intro h x hx hequal
      rcases List.mem_filter.1 hx with ⟨hmem, hsame⟩
      exact of_decide_eq_true hsame (h x hmem hequal)

/-- Where all numbers are in normal form, subtraction leaves out what is equal. -/
theorem combine_sub_of_isNormal {l r : List Json}
    (hl : ∀ x ∈ l, ∀ n ∈ x.orderedNumbers, n.IsNormal)
    (hr : ∀ y ∈ r, ∀ n ∈ y.orderedNumbers, n.IsNormal) :
    combine .sub (.array l) (.array r) = .ok (.array (l.filter fun x => ¬ EqualIn r x)) := by
  rw [combine_sub_eq, (filter_same_eq_filter_equal_iff l r).2]
  rintro x hx ⟨y, hy, heq⟩
  exact ⟨y, hy, heq, Json.sameNumbers_of_isNormal (hl x hx) (hr y hy) heq⟩

def binaryOne : Json :=
  .number (.real ⟨false, 4503599627370496, 1022, by decide⟩)

/-- One is left when the binary number one is taken away, though the two are equal. -/
theorem sub_leaves_equal :
    (Json.ofNat 1).compare binaryOne = .eq ∧
      combine .sub (.array [.ofNat 1]) (.array [binaryOne]) = .ok (.array [.ofNat 1]) ∧
      ¬ ∀ l r : List Json, combine .sub (.array l) (.array r) =
        .ok (.array (l.filter fun x => ∀ y ∈ r, x.compare y ≠ .eq)) := by
  have hequal : (Json.ofNat 1).compare binaryOne = .eq := by decide +kernel
  have hleft : combine .sub (.array [.ofNat 1]) (.array [binaryOne]) =
      .ok (.array [.ofNat 1]) := rfl
  refine ⟨hequal, hleft, fun hall => ?_⟩
  have hnone := hall [.ofNat 1] [binaryOne]
  rw [hleft] at hnone
  simp [hequal] at hnone

end Query
end Gleaner
