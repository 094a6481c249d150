import Gleaner.Proofs.Json.Order
import Gleaner.Proofs.Query.Streams
/-!
# Least and greatest items

The search for a least or a greatest item keeps the best item so far and compares each item with it
once. That the last one is best of all rests on the laws of the order.

* `compare_of_compare_ne` is the law that is needed: what is ahead of an item is ahead of everything
  that is not;
* `Foremost` says what the search has found, `foremost_better` that it goes on so with one more
  item;
* `foremost_foldl`: it has found that at the end;
* `IsFirst` is the first item with a property, and `min_max_first` says what `min` and `max` give.
-/

namespace Gleaner
namespace Query

/-! ## One comparison for each item -/

section Search

variable {wanted : Ordering} {items : List Json} {m x y : Json}

theorem compare_swap (x y : Json) : Json.compare y x = (Json.compare x y).swap :=
  Std.OrientedCmp.eq_swap

/-- What is ahead of an item is ahead of everything that is not. -/
theorem compare_of_compare_ne (hwanted : wanted ≠ .eq) (hx : Json.compare x m = wanted)
    (hy : Json.compare y m ≠ wanted) : Json.compare x y = wanted := by
  cases wanted with
  | eq => exact absurd rfl hwanted
  | lt =>
      have hmy : (Json.compare m y).isLE :=
        Std.OrientedCmp.isLE_of_isGE (Ordering.ne_lt_iff_isGE.1 hy)
      exact Std.TransCmp.lt_of_lt_of_isLE hx hmy
  | gt =>
      have hmy : (Json.compare m y).isGE :=
        Std.OrientedCmp.isGE_of_isLE (Ordering.ne_gt_iff_isLE.1 hy)
      exact Std.TransCmp.gt_of_gt_of_isGE hx hmy

/-- An item is ahead of all items before it, and no item after it is ahead of it. -/
def Foremost (wanted : Ordering) (items : List Json) (m : Json) : Prop :=
  ∃ before after, items = before ++ m :: after ∧ (∀ x ∈ before, Json.compare m x = wanted) ∧
    ∀ x ∈ after, Json.compare x m ≠ wanted

theorem Foremost.singleton (wanted : Ordering) (m : Json) : Foremost wanted [m] m :=
  ⟨[], [], rfl, nofun, nofun⟩

/-- No item is ahead of the foremost one. -/
theorem Foremost.not_ahead (hwanted : wanted ≠ .eq) (h : Foremost wanted items m) :
    ∀ x ∈ items, Json.compare x m ≠ wanted := by
  rcases h with ⟨before, after, rfl, hbefore, hafter⟩
  refine List.forall_mem_append.2 ⟨fun x hx => ?_, List.forall_mem_cons.2 ⟨?_, hafter⟩⟩
  · have hswap : Json.compare x m = wanted.swap := by
      rw [compare_swap m x, hbefore x hx]
    rw [hswap]
    cases wanted with
    | eq => exact absurd rfl hwanted
    | lt | gt => decide
  · have hself : Json.compare m m = .eq := Std.ReflCmp.compare_self
    rw [hself]
    exact Ne.symm hwanted

/-- One more item is the foremost one if it is ahead of the one before. -/
theorem foremost_better (hwanted : wanted ≠ .eq) (h : Foremost wanted items m) (x : Json) :
    ∃ m', better wanted (some m) x = some m' ∧ Foremost wanted (items ++ [x]) m' := by
  by_cases hx : Json.compare x m = wanted
  · -- the item is ahead of the best one, and with it of all others
    have hahead : ∀ y ∈ items, Json.compare x y = wanted := by
      intro y hy
      exact compare_of_compare_ne hwanted hx (h.not_ahead hwanted y hy)
    exact ⟨x, if_pos hx, items, [], rfl, hahead, nofun⟩
  · rcases h with ⟨before, after, rfl, hbefore, hafter⟩
    refine ⟨m, if_neg hx, before, after ++ [x], by simp, hbefore, ?_⟩
    exact List.forall_mem_append.2 ⟨hafter, List.forall_mem_singleton.2 hx⟩

/-- The search ends with the foremost item. -/
theorem foremost_foldl (hwanted : wanted ≠ .eq) (hitems : items ≠ []) :
    ∃ m, items.foldl (better wanted) none = some m ∧ Foremost wanted items m := by
  -- on the items that have been compared, the last one at the end
  induction items using List.reverseRecOn with
  | nil => exact absurd rfl hitems
  | append_singleton items x ih =>
      rw [List.foldl_append]
      by_cases hnone : items = []
      · rw [hnone]
        exact ⟨x, rfl, .singleton wanted x⟩
      · rcases ih hnone with ⟨m, hm, hforemost⟩
        rw [hm]
        exact foremost_better hwanted hforemost x

end Search

/-! ## The first extreme item -/

/-- The first item of a list that has a property. -/
def IsFirst (P : Json → Prop) (items : List Json) (m : Json) : Prop :=
  ∃ before after, items = before ++ m :: after ∧ P m ∧ ∀ y ∈ before, ¬ P y

/-- The foremost item is the first one that is behind no item. -/
theorem Foremost.isFirst {wanted : Ordering} {items : List Json} {m : Json} (hwanted : wanted ≠ .eq)
    (h : Foremost wanted items m) :
    IsFirst (fun m => ∀ x ∈ items, Json.compare m x ≠ wanted.swap) items m := by
  have hnone := h.not_ahead hwanted
  rcases h with ⟨before, after, hitems, hbefore, _⟩
  refine ⟨before, after, hitems, ?_, ?_⟩
  · intro x hx hbehind
    refine hnone x hx ?_
    rw [compare_swap m x, hbehind, Ordering.swap_swap]
  · -- each item before it is behind it
    intro y hy hy'
    have hm : m ∈ items := by simp [hitems]
    refine hy' m hm ?_
    rw [compare_swap m y, hbefore y hy]

/-- An array that is not empty has a first extremum. -/
theorem extremum_of_ne_nil {wanted : Ordering} (hwanted : wanted ≠ .eq) {items : List Json}
    (hitems : items ≠ []) :
    ∃ m, extremum wanted (.array items) = .ok m ∧
      IsFirst (fun m => ∀ x ∈ items, Json.compare m x ≠ wanted.swap) items m := by
  rcases foremost_foldl hwanted hitems with ⟨m, hm, hforemost⟩
  refine ⟨m, ?_, hforemost.isFirst hwanted⟩
  rw [extremum, hm]
  rfl

/--
The least item of an array that has items is the first one that is greater than no item, and the
greatest one is the first that is less than no item. Of an array without items both are null.
-/
theorem min_max_first :
    (∀ items : List Json, items ≠ [] →
      (∃ m, (Query.call .min []).eval (.array items) = .ok [m] ∧
        IsFirst (fun m => ∀ x ∈ items, Json.compare m x ≠ .gt) items m) ∧
      ∃ m, (Query.call .max []).eval (.array items) = .ok [m] ∧
        IsFirst (fun m => ∀ x ∈ items, Json.compare m x ≠ .lt) items m) ∧
    (Query.call .min []).eval (.array []) = .ok [.null] ∧
    (Query.call .max []).eval (.array []) = .ok [.null] := by
  refine ⟨?_, rfl, rfl⟩
  intro items hitems
  constructor
  · rcases @extremum_of_ne_nil .lt nofun items hitems with ⟨m, hm, hfirst⟩
    exact ⟨m, congrArg (Except.map ([·])) hm, hfirst⟩
  · rcases @extremum_of_ne_nil .gt nofun items hitems with ⟨m, hm, hfirst⟩
    exact ⟨m, congrArg (Except.map ([·])) hm, hfirst⟩

/-- Items of which the last two are equal in the order, and greatest. -/
def equalItems : List Json :=
  [.string "Ana", Json.personRelisted, Json.person]

/-- Of items that are equal in the order, the first one counts. -/
example : (Query.call .max []).eval (.array equalItems) = .ok [Json.personRelisted] := by
  cbv

theorem min_max_first_of_equalItems :
    equalItems ≠ [] ∧
      (∃ m, (Query.call .min []).eval (.array equalItems) = .ok [m] ∧
        IsFirst (fun m => ∀ x ∈ equalItems, Json.compare m x ≠ .gt) equalItems m) ∧
      ∃ m, (Query.call .max []).eval (.array equalItems) = .ok [m] ∧
        IsFirst (fun m => ∀ x ∈ equalItems, Json.compare m x ≠ .lt) equalItems m := by
  have hitems : equalItems ≠ [] := nofun
  exact ⟨hitems, min_max_first.1 equalItems hitems⟩

end Query
end Gleaner
