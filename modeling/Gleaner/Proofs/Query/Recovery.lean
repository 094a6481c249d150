import Gleaner.Proofs.Query.Errors
import Gleaner.Proofs.Query.Streams
/-!
# Members that need not be there

A query with `?` contains the errors of what it is about, and the results of a query are there all
together or not at all. So it matters whether `?` is about a whole stream or about single values.

* `HasMembers` are the values of which members can be taken, and `memberValue` is what is taken;
* `contained_mapM_member`: of a whole stream, one value without members leaves no result;
* `forEach_contained_member`: of single values, the others keep their results;
* `eval_optional_field`: what `t.k?` and `t | .k?` have in common and where they differ.
-/

namespace Gleaner
namespace Query

/-! ## Single values -/

/-- The values of which members can be taken: the objects, and null. -/
def HasMembers (v : Json) : Prop :=
  v.kind = .object ∨ v.kind = .null

instance : DecidablePred HasMembers :=
  fun v => inferInstanceAs (Decidable (v.kind = .object ∨ v.kind = .null))

/-- The member of a name; a missing one is null. -/
def memberValue (key : String) : Json → Json
  | .object members => (Members.get? key members).getD .null
  | _ => .null

/-- Where a value can have members, one that is absent is null. -/
theorem member_of_hasMembers {v : Json} (h : HasMembers v) (key : String) :
    member v key = .ok (memberValue key v) := by
  cases v with
  | object | null => rfl
  | bool | number | string | array => rcases h with h | h <;> cases h

/-- Where a value cannot have members, asking for one is an error that names the kind. -/
theorem member_of_not_hasMembers {v : Json} (h : ¬ HasMembers v) (key : String) :
    member v key = .error (.cannotIndex v.kind ("\"" ++ key ++ "\"")) := by
  cases v with
  | object => exact absurd (.inl rfl) h
  | null => exact absurd (.inr rfl) h
  | bool | number | string | array => rfl

/-! ## Streams -/

variable (vs : List Json) (key : String)

/-- One value without members leaves the stream of all members without a result. -/
theorem contained_mapM_member :
    contained (vs.mapM fun v => member v key) =
      .ok (if ∀ v ∈ vs, HasMembers v then vs.map (memberValue key) else []) := by
  split
  · rename_i hall
    rw [Except.mapM_eq_ok fun v hv => member_of_hasMembers (hall v hv) key]
    rfl
  · rename_i hnot
    rcases List.exists_first_not hnot with ⟨before, v, after, rfl, hbefore, hv⟩
    -- the members before the first failure are lost with it
    rw [Except.mapM_eq_error_iff.2 ⟨before, v, after, rfl,
      fun b hb => ⟨_, member_of_hasMembers (hbefore b hb) key⟩, member_of_not_hasMembers hv key⟩]
    rfl

/-- Where the errors of each value are contained, the other values keep their members. -/
theorem forEach_contained_member :
    forEach vs (fun v => contained ([v].mapM fun w => member w key)) =
      .ok ((vs.filter fun v => HasMembers v).map (memberValue key)) := by
  have hsingle : ∀ v, contained ([v].mapM fun w => member w key) =
      .ok (if HasMembers v then [memberValue key v] else []) := by
    intro v
    rw [contained_mapM_member]
    simp
  rw [forEach_eq_ok fun v _ => hsingle v]
  refine congrArg Except.ok ?_
  induction vs with
  | nil => rfl
  | cons v vs ih => by_cases hv : HasMembers v <;> simp [hv, ih]

/-- The two streams of members are the same where all values have members or none has. -/
theorem all_or_none_iff :
    (if ∀ v ∈ vs, HasMembers v then vs.map (memberValue key) else []) =
        (vs.filter fun v => HasMembers v).map (memberValue key) ↔
      (∀ v ∈ vs, HasMembers v) ∨ ∀ v ∈ vs, ¬ HasMembers v := by
  split
  · rename_i hall
    have hkept : (vs.filter fun v => HasMembers v) = vs :=
      List.filter_eq_self.2 fun v hv => decide_eq_true (hall v hv)
    simp only [hkept, true_iff]
    exact .inl hall
  · rename_i hnot
    rw [or_iff_right hnot, eq_comm, List.map_eq_nil_iff, List.filter_eq_nil_iff]
    simp

/-! ## Queries -/

/--
The members of the results of a query, where the query has results: `t | .k?` gives those of the
results that have members, and `t.k?` gives the same if all results have members or none has, and
nothing otherwise.
-/
theorem eval_optional_field {t : Query} {v : Json} {ws : List Json} (h : eval t v = .ok ws) :
    eval (.pipe t (.optional (.field .identity key))) v =
      .ok ((ws.filter fun w => HasMembers w).map (memberValue key)) ∧
    eval (.optional (.field t key)) v =
      .ok (if ∀ w ∈ ws, HasMembers w then ws.map (memberValue key) else []) ∧
    (eval (.optional (.field t key)) v = eval (.pipe t (.optional (.field .identity key))) v ↔
      (∀ w ∈ ws, HasMembers w) ∨ ∀ w ∈ ws, ¬ HasMembers w) := by
  have hpipe : eval (.pipe t (.optional (.field .identity key))) v =
      .ok ((ws.filter fun w => HasMembers w).map (memberValue key)) := by
    rw [eval_pipe, h, ← forEach_contained_member]
    rfl
  have hoptional : eval (.optional (.field t key)) v =
      .ok (if ∀ w ∈ ws, HasMembers w then ws.map (memberValue key) else []) := by
    rw [eval, eval, h, ← contained_mapM_member]
    rfl
  refine ⟨hpipe, hoptional, ?_⟩
  rw [hpipe, hoptional, Except.ok.injEq]
  exact all_or_none_iff ws key

/-- An object and a number, of which only the object has members. -/
def mixedItems : Json :=
  .array [.object [("k", .ofNat 1)], .ofNat 5]

theorem eval_mixedItems :
    eval (.iterate .identity) mixedItems = .ok [.object [("k", .ofNat 1)], .ofNat 5] := by
  rfl

theorem eval_optional_field_of_mixedItems :
    eval (.iterate .identity) mixedItems = .ok [.object [("k", .ofNat 1)], .ofNat 5] ∧
      eval (.pipe (.iterate .identity) (.optional (.field .identity "k"))) mixedItems =
        .ok [.ofNat 1] ∧
      eval (.optional (.field (.iterate .identity) "k")) mixedItems = .ok [] := by
  have hmembers := eval_optional_field "k" eval_mixedItems
  exact ⟨eval_mixedItems, hmembers.1, hmembers.2.1⟩

/-- The number takes the member of the object with it. -/
theorem optional_field_drops_members :
    eval (.optional (.field (.iterate .identity) "k")) mixedItems = .ok [] ∧
      ¬ ∀ (t : Query) (v : Json) (ws : List Json) (key : String), eval t v = .ok ws →
        eval (.optional (.field t key)) v =
          eval (.pipe t (.optional (.field .identity key))) v := by
  have hoptional : eval (.optional (.field (.iterate .identity) "k")) mixedItems = .ok [] := by
    rfl
  refine ⟨hoptional, fun hall => ?_⟩
  have hsame := hall _ _ _ "k" eval_mixedItems
  have hpipe : eval (.pipe (.iterate .identity) (.optional (.field .identity "k"))) mixedItems =
      .ok [.ofNat 1] := by
    rfl
  rw [hoptional, hpipe] at hsame
  cases hsame

end Query
end Gleaner
