import Gleaner.Proofs.Json.Members
import Gleaner.Proofs.Json.Occurrences
import Gleaner.Proofs.Sequencing
import Gleaner.Query.Evaluation
/-!
# Properties of results

What holds of the result of a computation, if there is one, and what the operations that select
from a value can give.

* `Gives` says that the result of a computation, if there is one, has a property, and is closed
  under the ways in which computations are put together;
* `Kept v r` says that `r` is null or one of the values inside of `v`, and `Kept.trans` that this
  goes through several steps;
* each operation that selects from a value has one lemma `..._kept`.
-/

namespace Gleaner
namespace Query

/-! ## Computations -/

/-- A computation whose result, if there is one, has a property. -/
def Gives {α : Type} (R : α → Prop) (x : Except Error α) : Prop :=
  ∀ a, x = .ok a → R a

namespace Gives

section Computations

variable {α β : Type} {R : α → Prop} {S : β → Prop}

theorem ok {a : α} (h : R a) : Gives R (.ok a : Except Error α) := by
  intro b hb
  cases hb
  exact h

theorem error (e : Error) : Gives R (.error e : Except Error α) := by
  intro b hb
  cases hb

theorem any (x : Except Error α) : Gives (fun _ => True) x :=
  fun _ _ => trivial

/-- What holds of the first result and is kept by the second step holds of the last. -/
theorem bind {x : Except Error α} {f : α → Except Error β} (hx : Gives R x)
    (hf : ∀ a, R a → Gives S (f a)) : Gives S (x >>= f) := by
  cases x with
  | error e => exact .error e
  | ok a => exact hf a (hx a rfl)

theorem map {x : Except Error α} {f : α → β} (hx : Gives R x) (hf : ∀ a, R a → S (f a)) :
    Gives S (x.map f) := by
  cases x with
  | error e => exact .error e
  | ok a => exact .ok (hf a (hx a rfl))

theorem mono {T : α → Prop} {x : Except Error α} (hx : Gives R x) (hT : ∀ a, R a → T a) :
    Gives T x :=
  fun a ha => hT a (hx a ha)

/-- What holds of each result of a pass holds of all of them. -/
theorem mapM {xs : List α} {f : α → Except Error β} (hf : ∀ a ∈ xs, Gives S (f a)) :
    Gives (fun bs => ∀ b ∈ bs, S b) (xs.mapM f) := by
  induction xs with
  | nil => exact .ok nofun
  | cons a xs ih =>
      rw [List.mapM_cons]
      refine (hf a List.mem_cons_self).bind fun b hb => ?_
      refine (ih fun c hc => hf c (List.mem_cons_of_mem a hc)).bind fun bs hbs => ?_
      exact .ok (List.forall_mem_cons.2 ⟨hb, hbs⟩)

/-- An invariant of the steps of a fold holds of its result. -/
theorem foldlM {f : β → α → Except Error β} {xs : List α}
    (hf : ∀ b, S b → ∀ a ∈ xs, Gives S (f b a)) {b : β} (hb : S b) :
    Gives S (xs.foldlM f b) := by
  induction xs generalizing b with
  | nil => exact .ok hb
  | cons a xs ih =>
      rw [List.foldlM_cons]
      refine (hf b hb a List.mem_cons_self).bind fun c hc => ?_
      exact ih (fun b hb d hd => hf b hb d (List.mem_cons_of_mem a hd)) hc

end Computations

section Streams

variable {R : Json → Prop}

theorem forEach {vs : List Json} {f : Json → Stream}
    (hf : ∀ v ∈ vs, Gives (fun ws => ∀ w ∈ ws, R w) (f v)) :
    Gives (fun ws => ∀ w ∈ ws, R w) (forEach vs f) := by
  refine (Gives.mapM hf).map fun lists hlists => ?_
  intro v hv
  rcases List.mem_flatten.1 hv with ⟨list, hlist, hv⟩
  exact hlists list hlist v hv

theorem forPairs {lefts rights : List Json} {f : Json → Json → Except Error Json}
    (hf : ∀ l ∈ lefts, ∀ r ∈ rights, Gives R (f l r)) :
    Gives (fun ws => ∀ w ∈ ws, R w) (forPairs lefts rights f) := by
  refine .mapM fun pair hpair => ?_
  rcases List.mem_flatMap.1 hpair with ⟨l, hl, hpair⟩
  rcases List.mem_map.1 hpair with ⟨r, hr, rfl⟩
  exact hf l hl r hr

/-- Containing errors adds no results. -/
theorem contained {s : Stream} (h : Gives (fun ws => ∀ w ∈ ws, R w) s) :
    Gives (fun ws => ∀ w ∈ ws, R w) (contained s) := by
  cases s with
  | ok vs => exact h
  | error e =>
      unfold Query.contained
      dsimp only
      split
      · exact .error e
      · exact .ok nofun

theorem one {v : Json} (h : R v) : Gives (fun ws => ∀ w ∈ ws, R w) (.ok [v] : Stream) :=
  .ok (List.forall_mem_singleton.2 h)

/-- A stream of one result. -/
theorem single {x : Except Error Json} (h : Gives R x) :
    Gives (fun ws => ∀ w ∈ ws, R w) (x.map ([·])) :=
  h.map fun _ hv => List.forall_mem_singleton.2 hv

end Streams

end Gives

/-! ## Selected values -/

/-- A value is null, or it is one of the values inside of another one. -/
def Kept (v r : Json) : Prop :=
  r = .null ∨ r ∈ v.everyValue

section Kept

variable {v u r : Json}

theorem kept_null (v : Json) : Kept v .null :=
  .inl rfl

theorem kept_self (v : Json) : Kept v v :=
  .inr v.self_mem_everyValue

theorem kept_of_mem_parts (h : r ∈ v.parts) : Kept v r :=
  .inr (Json.mem_everyValue_of_mem_parts h)

/-- A value kept from a kept one is kept. -/
theorem Kept.trans (hu : Kept v u) (hr : Kept u r) : Kept v r := by
  rcases hr with rfl | hr
  · exact kept_null v
  · rcases hu with rfl | hu
    · -- null has no other value inside
      exact .inl (List.mem_singleton.1 hr)
    · exact .inr (Json.mem_everyValue_trans hu hr)

/-- A part that may be missing, with null in its place. -/
theorem kept_getD {part : Option Json} (h : ∀ w ∈ part, w ∈ v.parts) :
    Kept v (part.getD .null) := by
  cases part with
  | none => exact kept_null v
  | some w => exact kept_of_mem_parts (h w rfl)

theorem kept_get? (members : Members) (key : String) :
    Kept (.object members) ((Members.get? key members).getD .null) :=
  kept_getD fun _ hw => List.mem_map.2 ⟨_, Members.mem_of_get? hw, rfl⟩

theorem member_kept (v : Json) (key : String) : Gives (Kept v) (member v key) := by
  cases v with
  | object members => exact .ok (kept_get? members key)
  | null => exact .ok (kept_null _)
  | _ => exact .error _

/-- An item that is picked is kept from the value. -/
theorem item_kept (v position : Json) : Gives (Kept v) (item v position) := by
  unfold item
  split
  · exact .ok (kept_get? _ _)
  · refine .ok ?_
    split
    · exact kept_null _
    · exact kept_getD fun w hw => List.mem_of_getElem? hw
  · exact .ok (kept_null _)
  · exact .ok (kept_null _)
  · exact .error _

/-- The children of a value are kept from it. -/
theorem children_kept (v : Json) : Gives (fun ws => ∀ w ∈ ws, Kept v w) (children v) := by
  cases v with
  | array items => exact .ok fun w hw => kept_of_mem_parts hw
  | object members => exact .ok fun w hw => kept_of_mem_parts hw
  | _ => exact .error _

/-- The better of two values is one of them. -/
theorem mem_of_better {wanted : Ordering} {best : Option Json} {w : Json}
    (h : w ∈ better wanted best v) : w = v ∨ w ∈ best := by
  unfold better at h
  split at h
  · exact .inl (Option.some.inj h).symm
  · split at h
    · exact .inl (Option.some.inj h).symm
    · exact .inr h

/-- The best item so far is one of the items. -/
theorem mem_of_foldl_better {wanted : Ordering} {items : List Json} {best : Option Json}
    (h : r ∈ items.foldl (better wanted) best) : r ∈ items ∨ r ∈ best := by
  induction items generalizing best with
  | nil => exact .inr h
  | cons v items ih =>
      rcases ih h with hmem | hmem
      · exact .inl (List.mem_cons_of_mem v hmem)
      · rcases mem_of_better hmem with rfl | hbest
        · exact .inl List.mem_cons_self
        · exact .inr hbest

/-- The least or greatest item is one of the items. -/
theorem extremum_kept (wanted : Ordering) (v : Json) : Gives (Kept v) (extremum wanted v) := by
  cases v with
  | array items =>
      refine .ok (kept_getD fun w hw => ?_)
      rcases mem_of_foldl_better hw with hmem | hnone
      · exact hmem
      · cases hnone
  | _ => exact .error _

/-- The first item is kept from the value. -/
theorem first_kept (v : Json) : Gives (fun ws => ∀ w ∈ ws, Kept v w) (applyNullary .first v) := by
  cases v with
  | array items => exact .one (kept_getD fun w hw => List.mem_of_mem_head? hw)
  | _ => exact .error _

/-- The last item is kept from the value. -/
theorem last_kept (v : Json) : Gives (fun ws => ∀ w ∈ ws, Kept v w) (applyNullary .last v) := by
  cases v with
  | array items => exact .one (kept_getD fun w hw => List.mem_of_getLast? hw)
  | _ => exact .error _

end Kept

end Query
end Gleaner
