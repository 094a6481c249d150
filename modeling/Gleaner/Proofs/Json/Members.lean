import Gleaner.Json.Basic
import Mathlib
/-!
# Members by name

An object gives a name the first value that is listed for it. Without repeated names the order of
the members does not matter.

* `mem_of_get?`: what is found for a name is listed with it;
* `get?_eq_some_iff`: without repeated names, what is listed with a name is found for it;
* `get?_of_perm`: so it is found in every order.
-/

namespace Gleaner
namespace Members

variable {key : String} {v : Json} {ms ns : Members}

theorem mem_of_get? (h : get? key ms = some v) : (key, v) ∈ ms := by
  induction ms with
  | nil => cases h
  | cons m ms ih =>
      rcases m with ⟨k, w⟩
      by_cases hk : k = key
      · rw [get?, if_pos hk] at h
        cases h
        rw [hk]
        exact List.mem_cons_self
      · rw [get?, if_neg hk] at h
        exact List.mem_cons_of_mem _ (ih h)

/-- With distinct keys, looking up a key and listing a member say the same. -/
theorem get?_eq_some_iff (hkeys : (keys ms).Nodup) : get? key ms = some v ↔ (key, v) ∈ ms := by
  refine ⟨mem_of_get?, fun hmem => ?_⟩
  induction ms with
  | nil => cases hmem
  | cons m ms ih =>
      rcases m with ⟨k, w⟩
      rcases List.nodup_cons.1 hkeys with ⟨hnew, hrest⟩
      rcases List.mem_cons.1 hmem with heq | hmem
      · cases heq
        exact if_pos rfl
      · -- the name is listed again, so it is not that of the first member
        have hk : k ≠ key := by
          rintro rfl
          exact hnew (List.mem_map.2 ⟨(k, v), hmem, rfl⟩)
        rw [get?, if_neg hk]
        exact ih hrest hmem

/-- A list without repeated names is read alike in every order. -/
theorem get?_of_perm (hkeys : (keys ms).Nodup) (hperm : ms.Perm ns) (key : String) :
    get? key ms = get? key ns := by
  have hkeys' : (keys ns).Nodup := (hperm.map Prod.fst).nodup hkeys
  refine Option.ext fun v => ?_
  rw [get?_eq_some_iff hkeys, get?_eq_some_iff hkeys']
  exact hperm.mem_iff

/-- What is found in two lists looks alike where they differ in values that look alike. -/
theorem map_get?_of_eq {β : Type} {f : Json → β} {front back : Members} {name : String} {w : Json}
    (hvw : f v = f w) (key : String) :
    (get? key (front ++ (name, v) :: back)).map f =
      (get? key (front ++ (name, w) :: back)).map f := by
  induction front with
  | nil =>
      simp only [List.nil_append, get?]
      split
      · exact congrArg some hvw
      · rfl
  | cons m front ih =>
      rcases m with ⟨k, u⟩
      simp only [List.cons_append, get?]
      split
      · rfl
      · exact ih

end Members
end Gleaner
