import Gleaner.Proofs.Sequencing
import Gleaner.Query.Evaluation
/-!
# Streams of results

A query is evaluated on the results of another one in turn, and the first error ends the stream.

* `forEach_append`: the values of two lists are taken one list after the other;
* `forEach_eq_ok`, `forEach_eq_error_iff`: when a stream has results, and when it fails;
* `map_forEach`: what is done to all results together can be done to those of each value;
* `eval_pipe`, `eval_and`, `eval_or`, `eval_arith` and `eval_unary` say what a query of one form
  does with the streams of its parts;
* `asking` is the stream of left results of which some ask for a right side; `eval_and_of_ok` and
  `eval_or_of_ok`: `and` asks where a result is true, `or` where it is false;
* `eval_arith_of_single`, `eval_pipe_of_single`: queries with one result compute with single values.
-/

namespace Gleaner
namespace Query

/-! ## Values in turn -/

section ForEach

variable {vs : List Json} {f : Json → Stream} {e : Error}

/-- A pass takes the first value and then the others. -/
theorem forEach_cons (v : Json) (vs : List Json) (f : Json → Stream) :
    forEach (v :: vs) f = f v >>= fun us => (forEach vs f).map (us ++ ·) := by
  simp only [forEach, List.mapM_cons]
  cases f v with
  | error e => rfl
  | ok us => cases vs.mapM f <;> rfl

theorem forEach_singleton (v : Json) (f : Json → Stream) : forEach [v] f = f v := by
  rw [forEach_cons]
  cases f v with
  | error e => rfl
  | ok us => exact congrArg Except.ok (List.append_nil us)

/-- A pass over two lists in a row is a pass over one and then over the other. -/
theorem forEach_append (us vs : List Json) (f : Json → Stream) :
    forEach (us ++ vs) f = forEach us f >>= fun ws => (forEach vs f).map (ws ++ ·) := by
  induction us with
  | nil => exact (congrFun Except.map_id _).symm
  | cons u us ih =>
      rw [List.cons_append, forEach_cons, forEach_cons, ih]
      cases f u with
      | error e => rfl
      | ok ws =>
          cases forEach us f with
          | error e => rfl
          | ok xs =>
              cases forEach vs f with
              | error e => rfl
              | ok ys => exact congrArg Except.ok (List.append_assoc ws xs ys).symm

theorem forEach_eq_ok {g : Json → List Json} (h : ∀ v ∈ vs, f v = .ok (g v)) :
    forEach vs f = .ok (vs.flatMap g) := by
  rw [forEach, Except.mapM_eq_ok h, List.flatMap_def]
  rfl

theorem forEach_eq_error_iff :
    forEach vs f = .error e ↔
      ∃ before v after, vs = before ++ v :: after ∧ (∀ u ∈ before, ∃ us, f u = .ok us) ∧
        f v = .error e := by
  rw [← Except.mapM_eq_error_iff, forEach]
  cases vs.mapM f <;> simp [Except.map]

theorem forEach_map (g : Json → Json) (vs : List Json) (f : Json → Stream) :
    forEach (vs.map g) f = forEach vs fun v => f (g v) := by
  rw [forEach, List.mapM_map]
  rfl

/-- What is done to all results together can be done to those of each value. -/
theorem map_forEach {g : List Json → List Json} (hnil : g [] = [])
    (happend : ∀ us ws, g (us ++ ws) = g us ++ g ws) (vs : List Json) (f : Json → Stream) :
    (forEach vs f).map g = forEach vs fun v => (f v).map g := by
  induction vs with
  | nil => exact congrArg Except.ok hnil
  | cons v vs ih =>
      rw [forEach_cons, forEach_cons, ← ih]
      cases f v with
      | error e => rfl
      | ok us =>
          cases forEach vs f with
          | error e => rfl
          | ok ws => exact congrArg Except.ok (happend us ws)

theorem forPairs_eq_error_iff {lefts rights : List Json} {f : Json → Json → Except Error Json} :
    forPairs lefts rights f = .error e ↔
      ∃ before a after, (lefts.flatMap fun l => rights.map fun r => (l, r)) =
        before ++ a :: after ∧ (∀ b ∈ before, ∃ x, f b.1 b.2 = .ok x) ∧ f a.1 a.2 = .error e :=
  Except.mapM_eq_error_iff

end ForEach

/-! ## The forms of a query -/

section Forms

variable (f : Builtin) (op : Operator) (left right q : Query) (v : Json)

theorem eval_pipe :
    (Query.pipe left right).eval v = (do forEach (← left.eval v) right.eval) :=
  rfl

theorem eval_and :
    (Query.and left right).eval v = (do conjunction (← left.eval v) (right.eval v)) :=
  rfl

theorem eval_or :
    (Query.or left right).eval v = (do disjunction (← left.eval v) (right.eval v)) :=
  rfl

theorem eval_arith :
    (Query.arith op left right).eval v = (do
      let lefts ← left.eval v
      forPairs lefts (← right.eval v) (combine op)) :=
  rfl

theorem meanings_eq_map (arguments : List Query) : meanings arguments = arguments.map eval := by
  induction arguments with
  | nil => rfl
  | cons q arguments ih => rw [meanings, ih, List.map_cons]

theorem eval_nullary : (Query.call f []).eval v = applyNullary f v :=
  rfl

theorem eval_unary : (Query.call f [q]).eval v = applyUnary f q.eval v :=
  rfl

end Forms

/-! ## Results that ask for a right side -/

/-- The stream in which each value either asks for the right side, or has results of its own. -/
def asking (asks : Json → Bool) (vs : List Json) (right : Stream) (own : List Json) : Stream :=
  forEach vs fun v => if asks v then right else .ok own

section Asking

variable (asks : Json → Bool) (vs own : List Json) (right : Stream)

/-- A change of the results that goes value by value goes through the asking. -/
theorem map_asking {g : List Json → List Json} (hnil : g [] = [])
    (happend : ∀ us ws, g (us ++ ws) = g us ++ g ws) :
    (asking asks vs right own).map g = asking asks vs (right.map g) (g own) := by
  rw [asking, map_forEach hnil happend, asking]
  refine congrArg (forEach vs) (funext fun v => ?_)
  cases asks v <;> rfl

theorem asking_map (g : Json → Json) :
    asking asks (vs.map g) right own = asking (fun v => asks (g v)) vs right own :=
  forEach_map g vs _

/-- Values that are left out have no results. -/
theorem forEach_filter_eq_asking :
    forEach (vs.filter asks) (fun _ => right) = asking asks vs right [] := by
  rw [asking]
  induction vs with
  | nil => rfl
  | cons v vs ih =>
      rw [forEach_cons]
      cases hv : asks v with
      | true =>
          rw [List.filter_cons_of_pos hv, forEach_cons, ih]
          rfl
      | false =>
          rw [List.filter_cons_of_neg (by simp [hv]), ih]
          exact (congrFun Except.map_id _).symm

theorem asking_ok (us : List Json) :
    asking asks vs (.ok us) own = .ok (vs.flatMap fun v => if asks v then us else own) :=
  forEach_eq_ok fun v _ => by cases asks v <;> rfl

/-- A right side that fails is noticed if a value asks for it. -/
theorem asking_error (e : Error) :
    asking asks vs (.error e) own =
      if vs.any asks then .error e else .ok (vs.flatMap fun _ => own) := by
  rw [asking]
  induction vs with
  | nil => rfl
  | cons v vs ih =>
      rw [forEach_cons, ih, List.any_cons]
      cases asks v with
      | true => rfl
      | false => cases vs.any asks <;> rfl

def truths (ws : List Json) : List Json :=
  ws.map fun w => .bool w.isTruthy

theorem conjunction_eq_asking :
    conjunction vs right = asking Json.isTruthy vs (right.map truths) [.bool false] :=
  rfl

/-- A disjunction asks the right side for every left result that is not true. -/
theorem disjunction_eq_asking :
    disjunction vs right = asking (fun v => !v.isTruthy) vs (right.map truths) [.bool true] := by
  refine congrArg (forEach vs) (funext fun v => ?_)
  by_cases hv : v.isTruthy = true
  · rw [if_pos hv, if_neg (by simp [hv])]
  · rw [if_neg hv, if_pos (by simp [hv])]
    rfl

end Asking

section Connectives

variable {left right : Query} {v : Json} {ls : List Json}

theorem eval_and_of_ok (hl : left.eval v = .ok ls) :
    (Query.and left right).eval v =
      asking Json.isTruthy ls ((right.eval v).map truths) [.bool false] := by
  rw [eval_and, hl]
  exact conjunction_eq_asking ls _

theorem eval_or_of_ok (hl : left.eval v = .ok ls) :
    (Query.or left right).eval v =
      asking (fun l => !l.isTruthy) ls ((right.eval v).map truths) [.bool true] := by
  rw [eval_or, hl]
  exact disjunction_eq_asking ls _

end Connectives

/-! ## Queries with one result -/

section Single

variable {left right : Query} {op : Operator} {x y : Except Error Json} {l r w v : Json}

/-- One result is piped into the right side as it is. -/
theorem eval_pipe_of_single (hl : left.eval v = x.map ([·])) :
    (Query.pipe left right).eval v = x >>= right.eval := by
  rw [eval_pipe, hl]
  cases x with
  | error e => rfl
  | ok l => exact forEach_singleton l right.eval

/-- Operands with one result each are combined once. -/
theorem eval_arith_of_single (hl : left.eval v = x.map ([·])) (hr : right.eval v = y.map ([·])) :
    (Query.arith op left right).eval v = (do combine op (← x) (← y)).map ([·]) := by
  rw [eval_arith, hl, hr]
  cases x with
  | error e => rfl
  | ok l =>
      cases y with
      | error e => rfl
      | ok r =>
          simp only [Except.map, bind, Except.bind, forPairs, List.flatMap_cons, List.flatMap_nil,
            List.map_cons, List.map_nil, List.append_nil, List.mapM_cons, List.mapM_nil]
          cases combine op l r <;> rfl

theorem eval_arith_of_ok (hl : left.eval v = .ok [l]) (hr : right.eval v = .ok [r])
    (hw : combine op l r = .ok w) : (Query.arith op left right).eval v = .ok [w] := by
  rw [@eval_arith_of_single left right op (.ok l) (.ok r) v hl hr]
  exact congrArg (Except.map ([·])) hw

end Single

end Query
end Gleaner
