import Gleaner.Proofs.Plan.MissingValues
import Gleaner.Proofs.Spec.Shape
/-!
# The declared types of columns

What the check of a specification and the coercion of values together say of the records of a run:

* `ValueType.Admits`: the values that may stand in a column of a type;
* `Spec.Cell.admitted` and `Spec.Cell.ne_null`: the value that a mapping puts in its column;
* `Members.insertAll_eq_append`: members of distinct keys are all kept, in order;
* `Spec.records_typed`: every record of a run has the declared columns, with values of their types.
-/

namespace Gleaner

open Plan

/-! ## Values of a type -/

/-- Null may stand in every column; numbers and truth values stand in columns of no other value. -/
def ValueType.Admits : ValueType → Json → Prop
  | .number, v => v = .null ∨ ∃ n, v = .number n
  | .boolean, v => v = .null ∨ ∃ b, v = .bool b
  | .string, _ | .date, _ | .any, _ => True

namespace ValueType

variable {type : ValueType} {v : Json}

theorem admits_null (type : ValueType) : type.Admits .null := by
  cases type <;> simp [Admits]

/-- A value of the type's own kind is of the type. -/
theorem admits_of_kind (h : ∀ k ∈ type.kind?, v.kind = k) : type.Admits v := by
  cases type with
  | number =>
      have hkind : v.kind = .number := h _ rfl
      cases v with
      | number n => exact .inr ⟨n, rfl⟩
      | _ => cases hkind
  | boolean =>
      have hkind : v.kind = .boolean := h _ rfl
      cases v with
      | bool b => exact .inr ⟨b, rfl⟩
      | _ => cases hkind
  | string => trivial
  | date => trivial
  | any => trivial

/-- What coercion to a column's type gives is of that type. -/
theorem admits_of_coerce {o : Outcome} (h : type.coerce o = some v) : type.Admits v := by
  cases type with
  | number =>
      rcases Option.bind_eq_some_iff.1 h with ⟨w, _, hw⟩
      exact .inr (asNumber?_eq_some hw)
  | boolean =>
      rcases Option.bind_eq_some_iff.1 h with ⟨w, _, hw⟩
      exact .inr (asBoolean?_eq_some hw)
  | string => trivial
  | date => trivial
  | any => trivial

end ValueType

/-! ## Columns as members -/

namespace Members

/-- Setting a new member puts it last. -/
theorem insert_eq_append {key : String} {value : Json} {ms : Members} (h : key ∉ keys ms) :
    insert key value ms = ms ++ [(key, value)] := by
  induction ms with
  | nil => rfl
  | cons m ms ih =>
      have hne : m.1 ≠ key := by
        intro heq
        exact h (heq ▸ List.mem_cons_self)
      have hrest : key ∉ keys ms := fun hmem => h (List.mem_cons_of_mem _ hmem)
      rw [insert, if_neg hne, ih hrest]
      rfl

/-- Members with new and distinct keys are put last, in their order. -/
theorem insertAll_eq_append {ms more : Members} (h : (keys (ms ++ more)).Nodup) :
    insertAll ms more = ms ++ more := by
  induction more generalizing ms with
  | nil => exact (List.append_nil ms).symm
  | cons m more ih =>
      -- the first member is new among those before it, so it is put after them
      have hassoc : ms ++ m :: more = (ms ++ [m]) ++ more := by simp
      have hnew : m.1 ∉ keys ms := by
        rw [keys, List.map_append] at h
        have hdisjoint := (List.nodup_append.1 h).2.2
        intro hmem
        exact hdisjoint _ hmem m.1 List.mem_cons_self rfl
      calc
        insertAll ms (m :: more) = insertAll (insert m.1 m.2 ms) more := rfl
        _ = insertAll (ms ++ [m]) more := by rw [insert_eq_append hnew]
        _ = ms ++ m :: more := by rw [ih (hassoc ▸ h), hassoc]

end Members

theorem Record.toJson_of_nodup {r : Record} (h : (r.toList.map Prod.fst).Nodup) :
    r.toJson = .object r.toList :=
  congrArg Json.object (Members.insertAll_eq_append h)

/-! ## Cells -/

namespace Spec

variable {spec : Spec} {values : Members} {row : Row} {m : Mapping} {v : Json}

/-- What a sound mapping finds is of the type of its column, a default included. -/
theorem Finds.admitted {dialect : Dialect} (hm : SoundMapping dialect m)
    (h : spec.Finds values row m (some v)) : m.type.Admits v := by
  rcases h with ⟨text, x, found, _, _, hv⟩
  cases hcoerce : m.type.coerce found with
  | some w =>
      rw [hcoerce] at hv
      cases hv
      exact ValueType.admits_of_coerce hcoerce
  | none =>
      -- a default is not coerced, but checked with the specification
      rw [hcoerce] at hv
      exact ValueType.admits_of_kind (hm.default v hv)

/-- A cell of a sound mapping is of the type of its column. -/
theorem Cell.admitted {dialect : Dialect} (hm : SoundMapping dialect m)
    (h : spec.Cell values row m v) : m.type.Admits v := by
  cases h with
  | found hfound => exact hfound.admitted hm
  | null _ _ => exact ValueType.admits_null m.type

/-- No cell is null unless the policy or the default says so. -/
theorem Cell.ne_null (hpolicy : spec.onMissing ≠ .null) (hdefault : m.default ≠ some .null)
    (h : spec.Cell values row m v) : v ≠ .null := by
  cases h with
  | found hfound => exact hfound.ne_null hdefault
  | null _ hnull => exact absurd hnull hpolicy

/-- The cells of a row are of the types of their columns, one by one. -/
theorem Cells.admitted {dialect : Dialect} {ms : List Mapping} {cells : List (String × Json)}
    (hms : ∀ m ∈ ms, SoundMapping dialect m) (h : spec.Cells values row ms cells) :
    List.Forall₂ (fun m cell => cell.1 = m.name ∧ m.type.Admits cell.2) ms cells := by
  induction h with
  | nil => exact .nil
  | @cons m cell ms cells hcell _ ih =>
      rw [List.forall_mem_cons] at hms
      exact .cons ⟨hcell.1, hcell.2.admitted hms.1⟩ (ih hms.2)

/-! ## Records -/

variable {input : String} {given : Members} {limits : Limits} {rows : List Record}

/--
The records of a run have a cell for each mapping, in order and under its name, with a value that
the declared type of the mapping admits. No value is null unless the policy or a default makes it
so. As objects they have those cells as members, and so no column is lost.
-/
theorem records_typed (h : spec.records input given limits = .ok rows) :
    ∀ r ∈ rows,
      List.Forall₂ (fun m cell => cell.1 = m.name ∧ m.type.Admits cell.2) spec.mappings r.toList ∧
        (spec.onMissing ≠ .null → (∀ m ∈ spec.mappings, m.default ≠ some .null) →
          ∀ cell ∈ r.toList, cell.2 ≠ .null) ∧
        r.toJson = .object r.toList ∧ r.toList.map Prod.fst = spec.columnNames := by
  rcases records_eq_ok_iff.1 h with ⟨hshape, d, all, _, hrun, rfl⟩
  rw [shapeFlaws_eq_nil_iff] at hshape
  intro r hr
  rcases exists_row_of_evaluate hrun (limits.mem_of_mem_cut hr) with
    ⟨root, rows, row, _, _, _, hyields⟩
  have hnames : r.toList.map Prod.fst = spec.columnNames := Cells.names hyields
  refine ⟨Cells.admitted hshape.mappings hyields, ?_, ?_, hnames⟩
  · intro hpolicy hdefaults
    have hcells : ∀ m ∈ spec.mappings, ∀ v, spec.Cell (spec.values given) row m v → v ≠ .null :=
      fun m hm v hv => hv.ne_null hpolicy (hdefaults m hm)
    exact Cells.forall_mem hcells hyields
  · -- the check of the specification keeps the names of the columns apart
    apply Record.toJson_of_nodup
    rw [hnames]
    exact hshape.columns_distinct

/-- The prices of goods that have one, and whether they are in stock. -/
def prices : Spec where
  version := 1
  name := "prices"
  input := ⟨.json, "."⟩
  output := ⟨.json, []⟩
  mappings := [⟨"price", "price", .number, none⟩, ⟨"stock", "stock", .boolean, some (.bool false)⟩]
  filters := []
  onMissing := .skipRow
  parameters := []

/-- Three goods: the second has no price that is a number. -/
def goods : String :=
  "[\x7b\"price\": 12, \"stock\": \"yes\"\x7d, \x7b\"price\": \"free\"\x7d, \x7b\"price\": 7\x7d]"

def goodsRead : Document :=
  .json (.array [.object [("price", .number (.integer 12)), ("stock", .string "yes")],
    .object [("price", .string "free")], .object [("price", .number (.integer 7))]])

def priced : List Record :=
  [⟨[("price", .number (.integer 12)), ("stock", .bool true)]⟩,
    ⟨[("price", .number (.integer 7)), ("stock", .bool false)]⟩]

/-- The records of a list of goods are typed, column by column. -/
theorem records_typed_of_goods :
    prices.records goods [] .none = .ok priced ∧
      ∀ r ∈ priced,
        List.Forall₂ (fun m cell => cell.1 = m.name ∧ m.type.Admits cell.2) prices.mappings
            r.toList ∧
          (∀ cell ∈ r.toList, cell.2 ≠ .null) ∧ r.toJson = .object r.toList := by
  have hshape : prices.shapeFlaws = [] := by decide +kernel
  have hread : Document.read .json goods = .ok goodsRead := by cbv
  have heval : prices.evaluate goodsRead [] = .ok priced := by cbv
  have hrun : prices.records goods [] .none = .ok priced :=
    records_eq_ok_iff.2 ⟨hshape, goodsRead, priced, hread, heval, rfl⟩
  have hdefaults : ∀ m ∈ prices.mappings, m.default ≠ some .null := by simp [prices]
  refine ⟨hrun, ?_⟩
  intro r hr
  rcases records_typed hrun r hr with ⟨htyped, hcomplete, hjson, _⟩
  exact ⟨htyped, hcomplete (by simp [prices]) hdefaults, hjson⟩

end Spec
end Gleaner
