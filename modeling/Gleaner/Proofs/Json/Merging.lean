import Gleaner.Json.Basic
import Mathlib
/-!
# Merged members

When members are set one after another, a known key keeps its place and takes the new value, and a
new key goes to the end.

* `insert_insert_self`, `insert_comm`: a key that is set twice, and a known key among others;
* `nodup_keys_insert`, `nodup_keys_insertAll`: setting members repeats no key;
* `insertAll_insert`: of the members to be set, one may as well be set at the end;
* `insertAll_assoc`: so it does not matter in which order three objects are merged in pairs.
-/

namespace Gleaner
namespace Members

variable {key other : String} {v w : Json} {ms ns : Members}

/-! ## One member -/

/-- Of two values for a key the last one counts. -/
theorem insert_insert_self (key : String) (v w : Json) (ms : Members) :
    insert key w (insert key v ms) = insert key w ms := by
  induction ms with
  | nil => exact if_pos rfl
  | cons m ms ih =>
      rcases m with ⟨k, u⟩
      by_cases hk : k = key
      · simp [insert, hk]
      · simp [insert, hk, ih]

/-- A key that is known already is set before or after another one. -/
theorem insert_comm (hkey : key ∈ keys ms) (hne : key ≠ other) (v w : Json) :
    insert key v (insert other w ms) = insert other w (insert key v ms) := by
  induction ms with
  | nil => cases hkey
  | cons m ms ih =>
      rcases m with ⟨k, u⟩
      by_cases hk : k = key
      · simp [insert, hk, hne]
      · have hrest : key ∈ keys ms := by
          rcases List.mem_cons.1 hkey with heq | hmem
          · exact absurd heq.symm hk
          · exact hmem
        by_cases hother : k = other
        · simp [insert, hother, Ne.symm hne]
        · simp [insert, hk, hother, ih hrest]

theorem mem_keys_insert (key : String) (v : Json) (ms : Members) :
    key ∈ keys (insert key v ms) := by
  rw [keys_insert]
  split
  · assumption
  · simp

theorem mem_keys_insert_of_mem (h : key ∈ keys ms) (other : String) (w : Json) :
    key ∈ keys (insert other w ms) := by
  rw [keys_insert]
  split
  · exact h
  · exact List.mem_append_left _ h

/-- Setting a member keeps the keys distinct. -/
theorem nodup_keys_insert (h : (keys ms).Nodup) (key : String) (v : Json) :
    (keys (insert key v ms)).Nodup := by
  rw [keys_insert]
  split
  · exact h
  · rename_i hnew
    exact List.nodup_append.2 ⟨h, List.nodup_singleton key,
      fun k hk k' hk' heq => hnew (by rwa [← List.mem_singleton.1 hk', ← heq])⟩

/-! ## All members -/

/-- Merging members into others keeps the keys distinct. -/
theorem nodup_keys_insertAll (h : (keys ms).Nodup) (ns : Members) :
    (keys (insertAll ms ns)).Nodup := by
  induction ns generalizing ms with
  | nil => exact h
  | cons n ns ih => exact ih (nodup_keys_insert h n.1 n.2)

/-- A key that is known already, and set to no other value meanwhile, is set at the beginning or at
the end. -/
theorem insert_insertAll (hknown : key ∈ keys ms) (hnot : key ∉ keys ns) (v : Json) :
    insert key v (insertAll ms ns) = insertAll (insert key v ms) ns := by
  induction ns generalizing ms with
  | nil => rfl
  | cons n ns ih =>
      rcases n with ⟨k, w⟩
      rcases not_or.1 (mt List.mem_cons.2 hnot) with ⟨hne, hrest⟩
      calc
        insert key v (insertAll ms ((k, w) :: ns)) =
            insert key v (insertAll (insert k w ms) ns) := rfl
        _ = insertAll (insert key v (insert k w ms)) ns :=
            ih (mem_keys_insert_of_mem hknown k w) hrest
        _ = insertAll (insert k w (insert key v ms)) ns := by rw [insert_comm hknown hne]

/-- Of the members to be set, without repeated keys, one may as well be set at the end. -/
theorem insertAll_insert (hns : (keys ns).Nodup) (key : String) (v : Json) (ms : Members) :
    insertAll ms (insert key v ns) = insert key v (insertAll ms ns) := by
  induction ns generalizing ms with
  | nil => rfl
  | cons n ns ih =>
      rcases n with ⟨k, w⟩
      rcases List.nodup_cons.1 hns with ⟨hnew, hrest⟩
      by_cases hk : k = key
      · subst hk
        -- the key keeps its place among the members to be set, and its other value never counts
        calc
          insertAll ms (insert k v ((k, w) :: ns)) = insertAll (insert k v ms) ns := by
            rw [insert, if_pos rfl]
            rfl
          _ = insertAll (insert k v (insert k w ms)) ns := by rw [insert_insert_self]
          _ = insert k v (insertAll (insert k w ms) ns) :=
            (insert_insertAll (mem_keys_insert k w ms) hnew v).symm
      · calc
          insertAll ms (insert key v ((k, w) :: ns)) =
              insertAll (insert k w ms) (insert key v ns) := by
            rw [insert, if_neg hk]
            rfl
          _ = insert key v (insertAll (insert k w ms) ns) := ih hrest _

/-- Three objects are merged in the same way from the front and from the back. -/
theorem insertAll_assoc (hns : (keys ns).Nodup) (ms ps : Members) :
    insertAll (insertAll ms ns) ps = insertAll ms (insertAll ns ps) := by
  induction ps generalizing ns with
  | nil => rfl
  | cons p ps ih =>
      rcases p with ⟨k, v⟩
      calc
        insertAll (insertAll ms ns) ((k, v) :: ps) =
            insertAll (insert k v (insertAll ms ns)) ps := rfl
        _ = insertAll (insertAll ms (insert k v ns)) ps := by rw [insertAll_insert hns]
        _ = insertAll ms (insertAll (insert k v ns) ps) := ih (nodup_keys_insert hns k v)

end Members
end Gleaner
