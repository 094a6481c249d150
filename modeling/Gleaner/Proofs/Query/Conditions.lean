import Gleaner.Proofs.Query.Streams
/-!
# Conditions with several results

A condition can have any number of results. A result on the left of `and` or `or` decides alone, or
it asks for the right side, and then the truth values of all results there take its place. A
selection gives its input once for each true result.

* `negations` are the opposite truth values of results, `copies` what a selection gives for them;
* `eval_select_select`: two selections in a row are one selection by both conditions;
* `eval_deMorgan`: the negation of `and` is `or` of the negations, and the other way round.
-/

namespace Gleaner
namespace Query

/-! ## Truth values -/

def negations (ws : List Json) : List Json :=
  ws.map fun w => .bool !w.isTruthy

/-- A value, once for each true condition. -/
def copies (v : Json) (conditions : List Json) : List Json :=
  (conditions.filter Json.isTruthy).map fun _ => v

theorem isTruthy_bool (b : Bool) : (Json.bool b).isTruthy = b := by
  cases b <;> rfl

theorem truths_negations (ws : List Json) : truths (negations ws) = negations ws := by
  simp [truths, negations, isTruthy_bool]

theorem negations_truths (ws : List Json) : negations (truths ws) = negations ws := by
  simp [truths, negations, isTruthy_bool]

theorem negations_append (us ws : List Json) :
    negations (us ++ ws) = negations us ++ negations ws :=
  List.map_append

theorem copies_truths (v : Json) (ws : List Json) : copies v (truths ws) = copies v ws := by
  simp [copies, truths, List.filter_map, Function.comp_def, isTruthy_bool]

theorem copies_append (v : Json) (us ws : List Json) :
    copies v (us ++ ws) = copies v us ++ copies v ws := by
  rw [copies, List.filter_append, List.map_append]
  rfl

theorem copies_eq_replicate (v : Json) (ws : List Json) :
    copies v ws = List.replicate (ws.countP Json.isTruthy) v := by
  rw [copies, List.map_const', List.countP_eq_length_filter]

/-! ## Selections -/

section Selections

variable {f g : Query} {v : Json} {ls : List Json}

theorem eval_select (q : Query) (v : Json) :
    (Query.call .select [q]).eval v = (q.eval v).map (copies v) :=
  eval_unary .select q v

theorem eval_select_of_select (hf : f.eval v = .ok ls) :
    (Query.pipe (.call .select [f]) (.call .select [g])).eval v =
      asking Json.isTruthy ls ((g.eval v).map (copies v)) [] := by
  rw [eval_pipe, eval_select, hf, ← forEach_filter_eq_asking, ← eval_select]
  exact forEach_map (fun _ => v) _ _

/-- Selecting by a conjunction asks the second condition only where the first holds. -/
theorem eval_select_of_and (hf : f.eval v = .ok ls) :
    (Query.call .select [.and f g]).eval v =
      asking Json.isTruthy ls ((g.eval v).map (copies v)) [] := by
  rw [eval_select, eval_and_of_ok hf, map_asking _ _ _ _ rfl (copies_append v), Except.map_map]
  -- the truth values of the right side select what its results do, and a lone false nothing
  simp only [copies_truths]
  rfl

end Selections

/--
Two selections in a row, and one by both conditions, have the same outcome. It is the input, once
for each pair of a true result of the first condition and one of the second. Where the second one
fails, so does the selection if the first one has a true result, and otherwise nothing is selected.
-/
theorem eval_select_select (f g : Query) (v : Json) :
    (Query.pipe (.call .select [f]) (.call .select [g])).eval v =
      (Query.call .select [.and f g]).eval v ∧
    (∀ ls rs, f.eval v = .ok ls → g.eval v = .ok rs →
      (Query.call .select [.and f g]).eval v =
        .ok (List.replicate (ls.countP Json.isTruthy * rs.countP Json.isTruthy) v)) ∧
    ∀ ls e, f.eval v = .ok ls → g.eval v = .error e →
      (Query.call .select [.and f g]).eval v =
        if ls.any Json.isTruthy then .error e else .ok [] := by
  refine ⟨?_, ?_, ?_⟩
  · cases hf : f.eval v with
    | error e =>
        rw [eval_pipe, eval_select, eval_select, eval_and, hf]
        rfl
    | ok ls => rw [eval_select_of_select hf, eval_select_of_and hf]
  · intro ls rs hf hg
    -- each true result of the first condition gives the same copies
    calc
      (Query.call .select [.and f g]).eval v =
          forEach (ls.filter Json.isTruthy) fun _ => .ok (copies v rs) := by
        rw [eval_select_of_and hf, hg, ← forEach_filter_eq_asking]
        rfl
      _ = .ok ((ls.filter Json.isTruthy).map fun _ => copies v rs).flatten := by
        rw [forEach_eq_ok fun _ _ => rfl, List.flatMap_def]
      _ = _ := by
        rw [List.map_const', ← List.countP_eq_length_filter, copies_eq_replicate,
          List.flatten_replicate_replicate]
  · intro ls e hf hg
    rw [eval_select_of_and hf, hg]
    have hnone : ls.flatMap (fun _ => ([] : List Json)) = [] :=
      List.flatMap_eq_nil_iff.2 fun _ _ => rfl
    refine (asking_error _ ls [] e).trans ?_
    rw [hnone]

/-- Three results, of which null alone is false. -/
def threeResults : List Json :=
  [.ofNat 1, .null, .string ""]

theorem eval_items_threeResults :
    (Query.iterate .identity).eval (.array threeResults) = .ok threeResults := by
  rfl

theorem eval_member_threeResults :
    (Query.field .identity "k").eval (.array threeResults) =
      .error (.cannotIndex .array "\"k\"") := by
  rfl

/-- Conditions with three results select each value as often as their conjunction says. -/
theorem eval_select_select_of_threeResults :
    (Query.iterate .identity).eval (.array threeResults) = .ok threeResults ∧
      (Query.field .identity "k").eval (.array threeResults) =
        .error (.cannotIndex .array "\"k\"") ∧
      (Query.pipe (.call .select [.iterate .identity]) (.call .select [.iterate .identity])).eval
        (.array threeResults) = .ok (List.replicate 4 (.array threeResults)) ∧
      (Query.call .select [.and (.iterate .identity) (.field .identity "k")]).eval
        (.array threeResults) = .error (.cannotIndex .array "\"k\"") := by
  refine ⟨eval_items_threeResults, eval_member_threeResults, ?_, ?_⟩
  · rcases eval_select_select (.iterate .identity) (.iterate .identity) (.array threeResults) with
      ⟨hsame, hok, _⟩
    rw [hsame]
    exact hok _ _ eval_items_threeResults eval_items_threeResults
  · rcases eval_select_select (.iterate .identity) (.field .identity "k") (.array threeResults) with
      ⟨_, _, herror⟩
    exact herror _ _ eval_items_threeResults eval_member_threeResults

/-! ## Negation -/

theorem eval_not (q : Query) (v : Json) : (Query.not q).eval v = (q.eval v).map negations :=
  rfl

section Negation

variable {a b : Query} {v : Json} {ls : List Json}

theorem eval_not_of_ok (ha : a.eval v = .ok ls) : (Query.not a).eval v = .ok (negations ls) := by
  rw [eval_not, ha]
  rfl

/-- A negated conjunction asks the second operand only where the first holds. -/
theorem eval_not_and (ha : a.eval v = .ok ls) :
    (Query.not (.and a b)).eval v =
      asking Json.isTruthy ls ((b.eval v).map negations) [.bool true] := by
  rw [eval_not, eval_and_of_ok ha, map_asking _ _ _ _ rfl negations_append, Except.map_map]
  simp only [negations_truths]
  rfl

/-- A negated disjunction asks the second operand only where the first does not hold. -/
theorem eval_not_or (ha : a.eval v = .ok ls) :
    (Query.not (.or a b)).eval v =
      asking (fun l => !l.isTruthy) ls ((b.eval v).map negations) [.bool false] := by
  rw [eval_not, eval_or_of_ok ha, map_asking _ _ _ _ rfl negations_append, Except.map_map]
  simp only [negations_truths]
  rfl

/-- The negation of a true result is false, so it asks for the right side of `or`. -/
theorem eval_or_not (ha : a.eval v = .ok ls) :
    (Query.or (.not a) (.not b)).eval v =
      asking Json.isTruthy ls ((b.eval v).map negations) [.bool true] := by
  rw [eval_or_of_ok (eval_not_of_ok ha), eval_not, Except.map_map, negations, asking_map]
  simp only [truths_negations, isTruthy_bool, Bool.not_not]

/-- The negation of a false result is true, so it asks for the right side of `and`. -/
theorem eval_and_not (ha : a.eval v = .ok ls) :
    (Query.and (.not a) (.not b)).eval v =
      asking (fun l => !l.isTruthy) ls ((b.eval v).map negations) [.bool false] := by
  rw [eval_and_of_ok (eval_not_of_ok ha), eval_not, Except.map_map, negations, asking_map]
  simp only [truths_negations, isTruthy_bool]

end Negation

/--
The negation of `and` and the alternative of the negations have the same outcome, and so have the
negation of `or` and both negations together. In place of each left result that asks for the right
side there are the negations of the results there, and each other one decides alone. A right side
that fails is noticed if some left result asks for it: a true one, or for `or` a false one.
-/
theorem eval_deMorgan (a b : Query) (v : Json) :
    (Query.not (.and a b)).eval v = (Query.or (.not a) (.not b)).eval v ∧
    (Query.not (.or a b)).eval v = (Query.and (.not a) (.not b)).eval v ∧
    (∀ ls rs, a.eval v = .ok ls → b.eval v = .ok rs →
      (Query.not (.and a b)).eval v =
        .ok (ls.flatMap fun l => if l.isTruthy then negations rs else [.bool true]) ∧
      (Query.not (.or a b)).eval v =
        .ok (ls.flatMap fun l => if l.isTruthy then [.bool false] else negations rs)) ∧
    ∀ ls e, a.eval v = .ok ls → b.eval v = .error e →
      (Query.not (.and a b)).eval v =
        (if ls.any Json.isTruthy then .error e else .ok (ls.map fun _ => .bool true)) ∧
      (Query.not (.or a b)).eval v =
        (if ls.any fun l => !l.isTruthy then .error e else .ok (ls.map fun _ => .bool false)) := by
  refine ⟨?_, ?_, ?_, ?_⟩
  · cases ha : a.eval v with
    | error e =>
        rw [eval_not, eval_and, eval_or, eval_not, ha]
        rfl
    | ok ls => rw [eval_not_and ha, eval_or_not ha]
  · cases ha : a.eval v with
    | error e =>
        rw [eval_not, eval_or, eval_and, eval_not, ha]
        rfl
    | ok ls => rw [eval_not_or ha, eval_and_not ha]
  · intro ls rs ha hb
    -- a true result decides `or` alone, and a false one asks
    have hdecides : (fun l : Json => if !l.isTruthy then negations rs else [.bool false]) =
        fun l => if l.isTruthy then [.bool false] else negations rs := by
      funext l
      cases l.isTruthy <;> rfl
    rw [eval_not_and ha, eval_not_or ha, hb, ← hdecides]
    exact ⟨asking_ok _ ls _ (negations rs), asking_ok _ ls _ (negations rs)⟩
  · intro ls e ha hb
    rw [eval_not_and ha, eval_not_or ha, hb, List.map_eq_flatMap, List.map_eq_flatMap]
    exact ⟨asking_error _ ls _ e, asking_error _ ls _ e⟩

/-- Both sides give the same seven booleans where neither operand fails, and the same error else. -/
theorem eval_deMorgan_of_threeResults :
    (Query.iterate .identity).eval (.array threeResults) = .ok threeResults ∧
      (Query.field .identity "k").eval (.array threeResults) =
        .error (.cannotIndex .array "\"k\"") ∧
      (Query.or (.not (.iterate .identity)) (.not (.iterate .identity))).eval
        (.array threeResults) =
          .ok ([false, true, false, true, false, true, false].map .bool) ∧
      (Query.not (.or (.iterate .identity) (.field .identity "k"))).eval (.array threeResults) =
        .error (.cannotIndex .array "\"k\"") := by
  refine ⟨eval_items_threeResults, eval_member_threeResults, ?_, ?_⟩
  · rcases eval_deMorgan (.iterate .identity) (.iterate .identity) (.array threeResults) with
      ⟨hsame, _, hok, _⟩
    rw [← hsame]
    exact (hok _ _ eval_items_threeResults eval_items_threeResults).1
  · rcases eval_deMorgan (.iterate .identity) (.field .identity "k") (.array threeResults) with
      ⟨_, _, _, herror⟩
    exact (herror _ _ eval_items_threeResults eval_member_threeResults).2

end Query
end Gleaner
