import Gleaner.Proofs.Json.Members
import Gleaner.Proofs.Json.Order
import Gleaner.Proofs.Text.Infix
import Gleaner.Query.Operators
/-!
# Values that hold values

What it means that a value holds another one depends on the kind of both. On all kinds together it
is a preorder.

* `Holds` says that a value holds another one, and `isContained_of_kind_ne` that values of two kinds
  are not compared at all;
* `holds_string`, `holds_array`, `holds_object` and `holds_atomic`: what is asked on each kind;
* `holds_preorder`: every value holds itself, what is held by something held is held, and arrays and
  objects that grow hold what they held.
-/

namespace Gleaner
namespace Query

/-- The container holds the other value, without an error. -/
def Holds (container contained : Json) : Prop :=
  isContained container contained = .ok true

variable {a b c : Json}

/-! ## One kind after the other -/

theorem isContained_string (s part : String) :
    isContained (.string s) (.string part) = .ok (Text.contains s part) :=
  rfl

theorem isContained_array (items wanted : List Json) :
    isContained (.array items) (.array wanted) = .ok (holdsItems items wanted) :=
  rfl

theorem isContained_object (ms wanted : Members) :
    isContained (.object ms) (.object wanted) = holdsMembers ms wanted :=
  rfl

theorem isContained_of_kind_ne (h : a.kind ≠ b.kind) :
    isContained a b = .error (.mismatch (.notContained a.kind b.kind)) := by
  cases b <;> cases a <;> first | rfl | exact absurd rfl h

/-- The values that are held by their equals only. -/
inductive Atomic : Json → Prop where
  | null : Atomic .null
  | bool (p : Bool) : Atomic (.bool p)
  | number (n : Number) : Atomic (.number n)

/-- Being atomic depends on the kind only. -/
theorem Atomic.of_kind_eq (hb : Atomic b) (hkind : a.kind = b.kind) : Atomic a := by
  cases a with
  | null | bool | number => constructor
  | _ => cases hb <;> cases hkind

theorem isContained_atomic (hb : Atomic b) (hkind : a.kind = b.kind) :
    isContained a b = .ok (a.compare b == .eq) := by
  cases hb with
  | null | bool | number => exact if_pos hkind

/-- An array holds another if each item wanted is held by some item. -/
theorem holdsItems_iff {items wanted : List Json} :
    holdsItems items wanted = true ↔ ∀ w ∈ wanted, ∃ v ∈ items, Holds v w := by
  induction wanted with
  | nil => simp [holdsItems]
  | cons w wanted ih =>
      -- in an array an error counts as an item that does not hold the wanted one
      have hitem : ∀ v, (isContained v w).toOption.getD false = true ↔ Holds v w := by
        intro v
        unfold Holds
        cases isContained v w <;> simp [Except.toOption]
      simp only [holdsItems, Bool.and_eq_true, List.any_eq_true, hitem, ih, List.forall_mem_cons]

/-- An object holds another if each member wanted is held by the member of its key. -/
theorem holdsMembers_iff {ms wanted : Members} :
    holdsMembers ms wanted = .ok true ↔
      ∀ m ∈ wanted, ∃ v, Members.get? m.1 ms = some v ∧ Holds v m.2 := by
  induction wanted with
  | nil => simp [holdsMembers]
  | cons m wanted ih =>
      rcases m with ⟨key, w⟩
      rw [holdsMembers, List.forall_mem_cons, ← ih]
      cases Members.get? key ms with
      | none => simp
      | some v =>
          unfold Holds
          rcases hv : isContained v w with e | _ | _ <;> simp [hv]

theorem holds_string {s part : String} :
    Holds (.string s) (.string part) ↔ part.toList <:+: s.toList := by
  rw [← Text.contains_iff, Holds, isContained_string, Except.ok.injEq]

theorem holds_array {items wanted : List Json} :
    Holds (.array items) (.array wanted) ↔ ∀ w ∈ wanted, ∃ v ∈ items, Holds v w := by
  rw [← holdsItems_iff, Holds, isContained_array, Except.ok.injEq]

theorem holds_object {ms wanted : Members} :
    Holds (.object ms) (.object wanted) ↔
      ∀ m ∈ wanted, ∃ v, Members.get? m.1 ms = some v ∧ Holds v m.2 := by
  rw [← holdsMembers_iff, Holds, isContained_object]

/-- A value holds values of its own kind only. -/
theorem Holds.kind_eq (h : Holds a b) : a.kind = b.kind := by
  by_contra hkind
  rw [Holds, isContained_of_kind_ne hkind] at h
  cases h

/-- What has no parts is held by values of its kind that compare equal to it. -/
theorem holds_atomic (hb : Atomic b) : Holds a b ↔ a.kind = b.kind ∧ a.compare b = .eq := by
  constructor
  · intro h
    have hkind := h.kind_eq
    rw [Holds, isContained_atomic hb hkind, Except.ok.injEq, beq_iff_eq] at h
    exact ⟨hkind, h⟩
  · rintro ⟨hkind, hequal⟩
    rw [Holds, isContained_atomic hb hkind, hequal]
    rfl

/-- What holds a string is a string. -/
theorem Holds.string_inv {part : String} (h : Holds a (.string part)) :
    ∃ s, a = .string s ∧ part.toList <:+: s.toList := by
  cases a with
  | string s => exact ⟨s, rfl, holds_string.1 h⟩
  | _ => cases h.kind_eq

/-- What holds an array is an array. -/
theorem Holds.array_inv {wanted : List Json} (h : Holds a (.array wanted)) :
    ∃ items, a = .array items ∧ ∀ w ∈ wanted, ∃ v ∈ items, Holds v w := by
  cases a with
  | array items => exact ⟨items, rfl, holds_array.1 h⟩
  | _ => cases h.kind_eq

/-- What holds an object is an object. -/
theorem Holds.object_inv {wanted : Members} (h : Holds a (.object wanted)) :
    ∃ ms, a = .object ms ∧ ∀ m ∈ wanted, ∃ v, Members.get? m.1 ms = some v ∧ Holds v m.2 := by
  cases a with
  | object ms => exact ⟨ms, rfl, holds_object.1 h⟩
  | _ => cases h.kind_eq

/-! ## The preorder -/

/-- A value holds itself. -/
theorem holds_refl {v : Json} (hv : v.WellFormed) : Holds v v := by
  induction v using Json.parts_induction with
  | step v ih =>
      cases v with
      | null | bool | number =>
          exact (holds_atomic (by constructor)).2 ⟨rfl, Std.ReflCmp.compare_self⟩
      | string s => exact holds_string.2 (List.infix_refl _)
      | array items =>
          have hitems := (Json.itemsWellFormed_iff items).1 hv
          exact holds_array.2 fun w hw => ⟨w, hw, ih w hw (hitems w hw)⟩
      | object ms =>
          -- no other member has the name, so what is found for it is the member itself
          have hmembers := (Json.membersWellFormed_iff ms).1 hv.2
          refine holds_object.2 fun m hm => ⟨m.2, (Members.get?_eq_some_iff hv.1).2 hm, ?_⟩
          exact ih m.2 (List.mem_map_of_mem hm) (hmembers m hm)

/-- Transitivity down to a value without parts. -/
theorem Holds.trans_atomic (hc : Atomic c) (hab : Holds a b) (hbc : Holds b c) : Holds a c := by
  rcases (holds_atomic hc).1 hbc with ⟨hkind, hequal⟩
  rcases (holds_atomic (hc.of_kind_eq hkind)).1 hab with ⟨hkind', hequal'⟩
  exact (holds_atomic hc).2 ⟨hkind'.trans hkind, Std.TransCmp.eq_trans hequal' hequal⟩

/-- What is held by something held is held. -/
theorem Holds.trans (hab : Holds a b) (hbc : Holds b c) : Holds a c := by
  -- the induction is on what is held in the end, and covers every pair of values that hold it
  induction c using Json.parts_induction generalizing a b with
  | step c ih =>
      cases c with
      | null | bool | number => exact Holds.trans_atomic (by constructor) hab hbc
      | string u =>
          rcases hbc.string_inv with ⟨t, rfl, htu⟩
          rcases hab.string_inv with ⟨s, rfl, hst⟩
          exact holds_string.2 (htu.trans hst)
      | array wanted =>
          rcases hbc.array_inv with ⟨between, rfl, hwanted⟩
          rcases hab.array_inv with ⟨items, rfl, hbetween⟩
          refine holds_array.2 fun w hw => ?_
          rcases hwanted w hw with ⟨u, hu, huw⟩
          rcases hbetween u hu with ⟨v, hv, hvu⟩
          exact ⟨v, hv, ih w hw hvu huw⟩
      | object wanted =>
          rcases hbc.object_inv with ⟨between, rfl, hwanted⟩
          rcases hab.object_inv with ⟨ms, rfl, hbetween⟩
          refine holds_object.2 fun m hm => ?_
          rcases hwanted m hm with ⟨u, hu, huw⟩
          rcases hbetween _ (Members.mem_of_get? hu) with ⟨v, hv, hvu⟩
          exact ⟨v, hv, ih m.2 (List.mem_map_of_mem hm) hvu huw⟩

/-- An array with further items holds what the array holds. -/
theorem Holds.append {items : List Json} (h : Holds (.array items) b) (more : List Json) :
    Holds (.array (items ++ more)) b := by
  cases b with
  | array wanted =>
      refine holds_array.2 fun w hw => ?_
      rcases holds_array.1 h w hw with ⟨v, hv, hvw⟩
      exact ⟨v, List.mem_append_left more hv, hvw⟩
  | _ => cases h.kind_eq

/-- An object with further members, wherever they are listed, holds what the object holds. -/
theorem Holds.extend {ms all : Members} (h : Holds (.object ms) b) (hsub : ms ⊆ all)
    (hkeys : (Members.keys all).Nodup) : Holds (.object all) b := by
  cases b with
  | object wanted =>
      refine holds_object.2 fun m hm => ?_
      rcases holds_object.1 h m hm with ⟨v, hv, hvw⟩
      exact ⟨v, (Members.get?_eq_some_iff hkeys).2 (hsub (Members.mem_of_get? hv)), hvw⟩
  | _ => cases h.kind_eq

/--
Holding is a preorder: every value holds itself, and what is held by something held is held. An
array that gets further items and an object that gets further members go on holding what they held.
-/
theorem holds_preorder :
    (∀ v : Json, v.WellFormed → Holds v v) ∧
    (∀ a b c : Json, Holds a b → Holds b c → Holds a c) ∧
    (∀ (items more : List Json) (b : Json),
      Holds (.array items) b → Holds (.array (items ++ more)) b) ∧
    ∀ (ms all : Members) (b : Json), ms ⊆ all → (Members.keys all).Nodup →
      Holds (.object ms) b → Holds (.object all) b := by
  refine ⟨?_, ?_, ?_, ?_⟩
  · intro v hv
    exact holds_refl hv
  · intro a b c hab hbc
    exact hab.trans hbc
  · intro items more b h
    exact h.append more
  · intro ms all b hsub hkeys h
    exact h.extend hsub hkeys

def team : Members :=
  [("tags", .array [.string "alpha", .bool true]), ("lead", .object [("name", .string "Ana")])]

/-- A team holds itself and parts of itself, and holds them still when it grows. -/
theorem holds_preorder_of_team :
    Holds (.object team) (.object team) ∧
    Holds (.object team) (.object [("tags", .array [])]) ∧
    Holds (.array [.string "alpha", .bool true]) (.array [.string "pha"]) ∧
    Holds (.array [.string "alpha", .bool true, .null]) (.array [.string "pha"]) ∧
    Holds (.object (("size", .number (.integer 4)) :: team)) (.object team) := by
  rcases holds_preorder with ⟨hrefl, htrans, happend, hextend⟩
  have hteam : Holds (.object team) (.object team) := by
    refine hrefl _ ?_
    simp [team, Json.WellFormed, Json.MembersWellFormed, Json.ItemsWellFormed, Members.keys]
  have hpart : Holds (.object team) (.object [("tags", .array [.bool true])]) := by
    rfl
  have htags : Holds (.array [.string "alpha", .bool true]) (.array [.string "pha"]) := by
    rfl
  refine ⟨hteam, ?_, htags, ?_, ?_⟩
  · exact htrans _ _ _ hpart (by rfl)
  · exact happend _ [.null] _ htags
  · exact hextend team _ _ (List.subset_cons_self _ _) (by decide) hteam

end Query
end Gleaner
