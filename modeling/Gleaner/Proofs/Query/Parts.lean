import Gleaner.Query.Syntax
/-!
# The parts of a query

* `Query.parts` are the queries that a query is directly made of; `Query.parts_induction` is
  induction on a query by its parts;
* `Query.Within` says that a query stands somewhere inside another one;
* `Query.Throughout` says that every query inside has a form that can be run: the literals are of
  some kind, the calls have their number of arguments, and the ranges have an end.
-/

namespace Gleaner
namespace Query

/-- The queries that a query is directly made of. -/
def parts : Query → List Query
  | .identity | .recurse | .literal _ => []
  | .field target _ | .iterate target => [target]
  | .index target position => [target, position]
  | .slice target low high => target :: (low.toList ++ high.toList)
  | .array inner => inner.toList
  | .optional inner | .not inner | .neg inner => [inner]
  | .pipe left right | .comma left right | .alternative left right => [left, right]
  | .and left right | .or left right => [left, right]
  | .compare _ left right | .arith _ left right => [left, right]
  | .call _ arguments => arguments

/-- The parts of a query are smaller than it. -/
theorem sizeOf_lt_of_mem_parts {p q : Query} (h : p ∈ q.parts) : sizeOf p < sizeOf q := by
  cases q with
  | call f arguments =>
      have hlt := List.sizeOf_lt_of_mem (show p ∈ arguments from h)
      simp only [call.sizeOf_spec]
      omega
  | array inner =>
      cases inner with
      | none => cases h
      | some inner =>
          rcases List.mem_singleton.1 h with rfl
          simp
          omega
  | slice target low high =>
      cases low <;> cases high <;> simp [parts] at h <;> grind
  | _ => simp [parts] at h <;> grind

/-- Induction on a query by the queries that it is directly made of. -/
theorem parts_induction {motive : Query → Prop}
    (step : ∀ q, (∀ p ∈ q.parts, motive p) → motive q) (q : Query) : motive q := by
  induction h : sizeOf q using Nat.strongRecOn generalizing q with
  | ind n ih =>
      refine step q fun p hp => ih (sizeOf p) ?_ p rfl
      rw [← h]
      exact sizeOf_lt_of_mem_parts hp

/-- A query stands somewhere inside another one, or is that query. -/
inductive Within (p : Query) : Query → Prop where
  | self : Within p p
  | part {q whole : Query} : q ∈ whole.parts → Within p q → Within p whole

theorem Within.trans {p q whole : Query} (hp : Within p q) (hq : Within q whole) :
    Within p whole := by
  induction hq with
  | self => exact hp
  | part hmem _ ih => exact .part hmem ih

/-- The form of a query, apart from its parts, is one that can be run. -/
def Fits (literals : Json → Prop) : Query → Prop
  | .literal value => literals value
  | .slice _ low high => low.isSome ∨ high.isSome
  | .call f arguments => arguments.length = f.arity
  | _ => True

/-- Every query inside a query has a form that can be run. -/
def Throughout (literals : Json → Prop) (q : Query) : Prop :=
  ∀ p, Within p q → p.Fits literals

theorem Throughout.within {literals : Json → Prop} {p q : Query} (h : q.Throughout literals)
    (hp : Within p q) : p.Throughout literals :=
  fun x hx => h x (hx.trans hp)

/-- A condition holds throughout a query if it holds here and throughout the parts. -/
theorem throughout_iff {literals : Json → Prop} {q : Query} :
    q.Throughout literals ↔ q.Fits literals ∧ ∀ p ∈ q.parts, p.Throughout literals := by
  constructor
  · intro h
    exact ⟨h q .self, fun p hp x hx => h x (.part hp hx)⟩
  · rintro ⟨hfits, hparts⟩ x hx
    cases hx with
    | self => exact hfits
    | part hp hx => exact hparts _ hp x hx

end Query
end Gleaner
