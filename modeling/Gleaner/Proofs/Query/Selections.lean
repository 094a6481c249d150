import Gleaner.Proofs.Query.Conditions
import Gleaner.Proofs.Query.Results
/-!
# Queries that only select

A query that is made of selections makes no values of its own: its results are values inside of its
input, or null.

* `IsPath` are the queries that are made of selections;
* `IsPath.eval_kept`: their results are kept from the input, by induction on the query;
* `paths_keep_values` puts this together with what `..` lists.
-/

namespace Gleaner
namespace Query

/-- A query that is made of selections. What a selection depends on can be any query. -/
inductive IsPath : Query → Prop where
  | identity : IsPath .identity
  | recurse : IsPath .recurse
  | field {target : Query} (name : String) : IsPath target → IsPath (.field target name)
  | index {target : Query} (position : Query) : IsPath target → IsPath (.index target position)
  | iterate {target : Query} : IsPath target → IsPath (.iterate target)
  | optional {inner : Query} : IsPath inner → IsPath (.optional inner)
  | pipe {left right : Query} : IsPath left → IsPath right → IsPath (.pipe left right)
  | comma {left right : Query} : IsPath left → IsPath right → IsPath (.comma left right)
  | alternative {left right : Query} :
      IsPath left → IsPath right → IsPath (.alternative left right)
  | select (condition : Query) : IsPath (.call .select [condition])
  | first : IsPath (.call .first [])
  | last : IsPath (.call .last [])
  | min : IsPath (.call .min [])
  | max : IsPath (.call .max [])
  | empty : IsPath (.call .empty [])

/-- The results of a path are values inside of its input, or null. -/
theorem IsPath.eval_kept {q : Query} (h : q.IsPath) (v : Json) :
    Gives (fun rs => ∀ r ∈ rs, Kept v r) (q.eval v) := by
  induction h generalizing v with
  | identity => exact .one (kept_self v)
  | recurse => exact .ok fun r hr => .inr hr
  | field name _ ih =>
      refine (ih v).bind fun ws hws => .mapM fun w hw => ?_
      exact (member_kept w name).mono fun _ => (hws w hw).trans
  | index position _ ih =>
      -- the results of the position only choose, so they can be any values
      refine (ih v).bind fun ws hws => (Gives.any (position.eval v)).bind fun ps _ => ?_
      exact Gives.forPairs fun w hw p _ => (item_kept w p).mono fun _ => (hws w hw).trans
  | iterate _ ih =>
      refine (ih v).bind fun ws hws => Gives.forEach fun w hw => ?_
      exact (children_kept w).mono fun _ hrs r hr => (hws w hw).trans (hrs r hr)
  | optional _ ih => exact (ih v).contained
  | pipe _ _ ihl ihr =>
      -- the right part runs on results of the left one
      refine (ihl v).bind fun ws hws => Gives.forEach fun w hw => ?_
      exact (ihr w).mono fun _ hrs r hr => (hws w hw).trans (hrs r hr)
  | comma _ _ ihl ihr =>
      refine (ihl v).bind fun ls hls => (ihr v).map fun rs hrs => ?_
      exact List.forall_mem_append.2 ⟨hls, hrs⟩
  | alternative _ _ ihl ihr =>
      refine (Gives.contained (ihl v)).bind fun ls hls => ?_
      dsimp only
      split
      · exact ihr v
      · exact .ok fun r hr => hls r (List.mem_of_mem_filter hr)
  | select condition =>
      rw [eval_select]
      refine (Gives.any (condition.eval v)).map fun conditions _ r hr => ?_
      rcases List.mem_map.1 hr with ⟨_, _, rfl⟩
      exact kept_self v
  | first => exact first_kept v
  | last => exact last_kept v
  | min => exact (extremum_kept .lt v).single
  | max => exact (extremum_kept .gt v).single
  | empty => exact .ok nofun

/--
Each result of a path is null or one of the values that `..` gives on the same input. These are the
values at all places in the input, once for each place, a value before the values inside of it.
-/
theorem paths_keep_values :
    (∀ (q : Query) (v : Json) (rs : List Json), q.IsPath → q.eval v = .ok rs →
      ∃ all, Query.recurse.eval v = .ok all ∧ ∀ r ∈ rs, r = .null ∨ r ∈ all) ∧
    ∀ v : Json, ∃ (all : List Json) (places : List (List Nat)), Query.recurse.eval v = .ok all ∧
      all.map some = places.map (fun p => Json.valueAt? p v) ∧
      (∀ p, p ∈ places ↔ (Json.valueAt? p v).isSome) ∧
      places.Pairwise fun p q => ¬ q <+: p := by
  constructor
  · intro q v rs hq hrs
    exact ⟨v.everyValue, rfl, hq.eval_kept v rs hrs⟩
  · intro v
    rcases v.exists_places with ⟨places, hplaces⟩
    exact ⟨v.everyValue, places, rfl, hplaces.values, hplaces.complete, hplaces.ordered⟩

/-- A list with an integer that no binary number holds. -/
def largeIds : Json :=
  .object [("ids", .array [.null, .ofNat (2 ^ 53 + 1)])]

def trueIds : Query :=
  .alternative (.pipe (.field .identity "ids") (.iterate .identity)) (.call .empty [])

/-- A large integer is kept as it is by a path that selects it. -/
theorem paths_keep_values_of_largeIds :
    trueIds.IsPath ∧ trueIds.eval largeIds = .ok [.ofNat (2 ^ 53 + 1)] ∧
      ∃ all, Query.recurse.eval largeIds = .ok all ∧
        ∀ r ∈ [Json.ofNat (2 ^ 53 + 1)], r = .null ∨ r ∈ all := by
  have hpath : trueIds.IsPath :=
    .alternative (.pipe (.field "ids" .identity) (.iterate .identity)) .empty
  have heval : trueIds.eval largeIds = .ok [.ofNat (2 ^ 53 + 1)] := by
    rfl
  exact ⟨hpath, heval, paths_keep_values.1 _ _ _ hpath heval⟩

end Query
end Gleaner
