import Gleaner.Proofs.Json.Order
/-!
# The values inside of a value

A value occurs in another one at a place: the positions of the parts on the way to it.

* `everyValue_eq`: a value comes first in its list of values, and then those inside of its parts;
* `Json.valueAt?` is the value at a place;
* `exists_places`: all values are listed once for each place, each before the values inside of it;
* `mem_everyValue_iff` and `mem_everyValue_trans`: what is listed is what occurs at some place, and
  what occurs inside of a value that occurs is listed, too.
-/

namespace Gleaner
namespace Json

variable {u v w : Json}

/-! ## Values inside of parts -/

theorem everyItem_eq_flatMap (items : List Json) : everyItem items = items.flatMap everyValue := by
  induction items with
  | nil => rfl
  | cons v items ih => rw [everyItem, ih, List.flatMap_cons]

theorem everyMember_eq_flatMap (ms : Members) :
    everyMember ms = (Members.values ms).flatMap everyValue := by
  induction ms with
  | nil => rfl
  | cons m ms ih =>
    rw [everyMember, ih, Members.values, Members.values, List.map_cons, List.flatMap_cons]

/-- A value comes first, and then come the values inside of its parts. -/
theorem everyValue_eq (v : Json) : v.everyValue = v :: v.parts.flatMap everyValue := by
  cases v with
  | array items => rw [everyValue, everyItem_eq_flatMap, parts]
  | object members => rw [everyValue, everyMember_eq_flatMap, parts]
  | _ => rfl

/-! ## Places -/

/-- The value at a place: the positions of the parts on the way to it. -/
def valueAt? : List Nat → Json → Option Json
  | [], v => some v
  | i :: place, v => v.parts[i]?.bind (valueAt? place)

/-- A place is reached step by step. -/
theorem valueAt?_append (p q : List Nat) (v : Json) :
    valueAt? (p ++ q) v = (valueAt? p v).bind (valueAt? q) := by
  induction p generalizing v with
  | nil => rfl
  | cons i p ih =>
      rw [List.cons_append, valueAt?, valueAt?, Option.bind_assoc]
      exact congrArg v.parts[i]?.bind (funext ih)

/--
Places that list the values inside of a value: each place in the value is one of them, and none
comes twice or before a place that it lies in.
-/
structure Lists (places : List (List Nat)) (v : Json) : Prop where
  values : v.everyValue.map some = places.map fun p => valueAt? p v
  complete : ∀ p, p ∈ places ↔ (valueAt? p v).isSome
  ordered : places.Pairwise fun p q => ¬ q <+: p

/-- The place of a value itself, and then the places in its parts. -/
def placesOf (inside : Json → List (List Nat)) (v : Json) : List (List Nat) :=
  [] :: v.parts.zipIdx.flatMap fun x => (inside x.1).map (x.2 :: ·)

theorem mem_placesOf_cons {inside : Json → List (List Nat)} {i : Nat} {p : List Nat} :
    i :: p ∈ placesOf inside v ↔ ∃ w, v.parts[i]? = some w ∧ p ∈ inside w := by
  simp [placesOf, List.mem_zipIdx_iff_getElem?]

/-- The places of a value, one after the other, hold the values that occur in it. -/
theorem values_placesOf {inside : Json → List (List Nat)}
    (h : ∀ w ∈ v.parts, w.everyValue.map some = (inside w).map fun p => valueAt? p w) :
    v.everyValue.map some = (placesOf inside v).map fun p => valueAt? p v := by
  have hparts : v.parts.flatMap everyValue = v.parts.zipIdx.flatMap fun x => everyValue x.1 := by
    rw [← List.flatMap_map Prod.fst, List.zipIdx_map_fst]
  rw [everyValue_eq, hparts, placesOf, List.map_cons, List.map_cons, List.map_flatMap,
    List.map_flatMap]
  refine congrArg (some v :: ·) (List.flatMap_congr fun x hx => ?_)
  have hx : v.parts[x.2]? = some x.1 := List.mem_zipIdx_iff_getElem?.1 hx
  rw [h x.1 (List.mem_of_getElem? hx), List.map_map]
  refine List.map_congr_left fun p _ => ?_
  rw [Function.comp_apply, valueAt?, hx, Option.bind_some]

/-- A place comes before the places inside it, if that holds within each part. -/
theorem pairwise_placesOf {inside : Json → List (List Nat)}
    (h : ∀ w ∈ v.parts, (inside w).Pairwise fun p q => ¬ q <+: p) :
    (placesOf inside v).Pairwise fun p q => ¬ q <+: p := by
  have hpositions : v.parts.zipIdx.Pairwise fun x y => x.2 < y.2 := by
    rw [← List.pairwise_map (f := Prod.snd), List.zipIdx_map_snd]
    exact List.pairwise_lt_range' 1
  refine List.pairwise_cons.2 ⟨?_, List.pairwise_flatMap.2 ⟨?_, hpositions.imp ?_⟩⟩
  · intro q hq hprefix
    rw [List.prefix_nil.1 hprefix] at hq
    simp at hq
  · intro x hx
    have hx : x.1 ∈ v.parts := List.mem_of_getElem? (List.mem_zipIdx_iff_getElem?.1 hx)
    rw [List.pairwise_map]
    refine (h x.1 hx).imp fun hpq hprefix => hpq ?_
    exact (List.cons_prefix_cons.1 hprefix).2
  · -- places in two parts begin with different positions
    intro x y hlt p hp q hq hprefix
    rcases List.mem_map.1 hp with ⟨p, _, rfl⟩
    rcases List.mem_map.1 hq with ⟨q, _, rfl⟩
    have heq : y.2 = x.2 := (List.cons_prefix_cons.1 hprefix).1
    omega

/-- Places listed inside each part of a value give the places of the value. -/
theorem lists_placesOf {inside : Json → List (List Nat)}
    (h : ∀ w ∈ v.parts, Lists (inside w) w) : Lists (placesOf inside v) v where
  values := values_placesOf fun w hw => (h w hw).values
  ordered := pairwise_placesOf fun w hw => (h w hw).ordered
  complete := by
    intro p
    cases p with
    | nil => simp [placesOf, valueAt?]
    | cons i p =>
        rw [mem_placesOf_cons, valueAt?]
        cases hi : v.parts[i]? with
        | none => simp
        | some w => simpa using (h w (List.mem_of_getElem? hi)).complete p

/-- The values inside a value stand at places that can be listed in order. -/
theorem exists_places (v : Json) : ∃ places, Lists places v := by
  induction v using parts_induction with
  | step v ih =>
      choose! inside hinside using ih
      exact ⟨_, lists_placesOf hinside⟩

/-- A value occurs in another exactly if it stands at some place of it. -/
theorem mem_everyValue_iff : w ∈ v.everyValue ↔ ∃ p, valueAt? p v = some w := by
  rcases exists_places v with ⟨places, hplaces⟩
  calc
    w ∈ v.everyValue ↔ some w ∈ v.everyValue.map some := by simp
    _ ↔ ∃ p ∈ places, valueAt? p v = some w := by rw [hplaces.values, List.mem_map]
    _ ↔ ∃ p, valueAt? p v = some w := by
      refine exists_congr fun p => and_iff_right_of_imp fun hp => ?_
      rw [hplaces.complete, hp]
      rfl

/-- What occurs inside of a value that occurs in another one occurs there, too. -/
theorem mem_everyValue_trans (hu : u ∈ v.everyValue) (hw : w ∈ u.everyValue) :
    w ∈ v.everyValue := by
  rcases mem_everyValue_iff.1 hu with ⟨p, hp⟩
  rcases mem_everyValue_iff.1 hw with ⟨q, hq⟩
  refine mem_everyValue_iff.2 ⟨p ++ q, ?_⟩
  rw [valueAt?_append, hp]
  exact hq

theorem self_mem_everyValue (v : Json) : v ∈ v.everyValue :=
  mem_everyValue_iff.2 ⟨[], rfl⟩

/-- A part is one of the values inside. -/
theorem mem_everyValue_of_mem_parts (h : w ∈ v.parts) : w ∈ v.everyValue := by
  rcases List.getElem?_of_mem h with ⟨i, hi⟩
  refine mem_everyValue_iff.2 ⟨[i], ?_⟩
  rw [valueAt?, hi]
  rfl

end Json
end Gleaner
