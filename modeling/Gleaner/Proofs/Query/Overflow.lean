import Gleaner.Proofs.Query.Errors
import Gleaner.Proofs.Query.Parsed
import Gleaner.Proofs.Query.Streams
/-!
# Where an evaluation ends the run

Evaluating a query evaluates its parts, in an order that ends with the first failure.

* `Visits` is one step of that order, from a query and its input to a part and the part's input;
  `Reaches` is any number of steps;
* `OverflowsAt` says that a remainder of critical operands is taken, and `Overflows` that the
  evaluation gets to one;
* `eval_of_overflows`: an evaluation that gets to one ends the run;
* `eval_cause`: nothing else ends the run, all other failures are errors of evaluation;
* `read_runs` is both, of every query that is read from a text.
-/

namespace Gleaner
namespace Query

/-! ## The order of evaluation -/

/--
Evaluating a query on a value evaluates a part of it on a value, since what is evaluated before the
part succeeds.
-/
inductive Visits : Query → Json → Query → Json → Prop where
  | field {target : Query} {name : String} {v : Json} : Visits (.field target name) v target v
  | target {target position : Query} {v : Json} : Visits (.index target position) v target v
  | position {target position : Query} {v : Json} {ts : List Json} :
      eval target v = .ok ts → Visits (.index target position) v position v
  | low {target low : Query} {high : Option Query} {v : Json} :
      Visits (.slice target (some low) high) v low v
  | high {target high : Query} {low : Option Query} {v l : Json} :
      evalBound low v = .ok l → Visits (.slice target low (some high)) v high v
  | sliced {target : Query} {low high : Option Query} {v l h : Json} :
      evalBound low v = .ok l → evalBound high v = .ok h →
      Visits (.slice target low high) v target v
  | iterate {target : Query} {v : Json} : Visits (.iterate target) v target v
  | optional {inner : Query} {v : Json} : Visits (.optional inner) v inner v
  | array {inner : Query} {v : Json} : Visits (.array (some inner)) v inner v
  | pipeLeft {left right : Query} {v : Json} : Visits (.pipe left right) v left v
  | pipeRight {left right : Query} {v w : Json} {before after : List Json} :
      eval left v = .ok (before ++ w :: after) → (∀ u ∈ before, ∃ us, eval right u = .ok us) →
      Visits (.pipe left right) v right w
  | commaLeft {left right : Query} {v : Json} : Visits (.comma left right) v left v
  | commaRight {left right : Query} {v : Json} {ls : List Json} :
      eval left v = .ok ls → Visits (.comma left right) v right v
  | alternativeLeft {left right : Query} {v : Json} : Visits (.alternative left right) v left v
  | alternativeRight {left right : Query} {v : Json} {ls : List Json} :
      contained (eval left v) = .ok ls → (∀ l ∈ ls, l.isTruthy = false) →
      Visits (.alternative left right) v right v
  | andLeft {left right : Query} {v : Json} : Visits (.and left right) v left v
  | andRight {left right : Query} {v l : Json} {ls : List Json} :
      eval left v = .ok ls → l ∈ ls → l.isTruthy = true → Visits (.and left right) v right v
  | orLeft {left right : Query} {v : Json} : Visits (.or left right) v left v
  | orRight {left right : Query} {v l : Json} {ls : List Json} :
      eval left v = .ok ls → l ∈ ls → l.isTruthy = false → Visits (.or left right) v right v
  | not {inner : Query} {v : Json} : Visits (.not inner) v inner v
  | neg {inner : Query} {v : Json} : Visits (.neg inner) v inner v
  | compareLeft {op : Comparison} {left right : Query} {v : Json} :
      Visits (.compare op left right) v left v
  | compareRight {op : Comparison} {left right : Query} {v : Json} {ls : List Json} :
      eval left v = .ok ls → Visits (.compare op left right) v right v
  | arithLeft {op : Operator} {left right : Query} {v : Json} :
      Visits (.arith op left right) v left v
  | arithRight {op : Operator} {left right : Query} {v : Json} {ls : List Json} :
      eval left v = .ok ls → Visits (.arith op left right) v right v
  -- A function evaluates its argument on the input first.
  | argument {f : Builtin} {argument : Query} {v : Json} :
      f.arity = 1 → f ≠ .map → Visits (.call f [argument]) v argument v
  -- A mapping evaluates its argument on the items in turn.
  | element {argument : Query} {v w : Json} {before after : List Json} :
      children v = .ok (before ++ w :: after) → (∀ u ∈ before, ∃ us, eval argument u = .ok us) →
      Visits (.call .map [argument]) v argument w

/-- Evaluating a query on a value evaluates, somewhere inside, a query on a value. -/
inductive Reaches (p : Query) (w : Json) : Query → Json → Prop where
  | here : Reaches p w p w
  | step {q q' : Query} {v v' : Json} : Visits q v q' v' → Reaches p w q' v' → Reaches p w q v

/-- A remainder is taken of critical operands, after the remainders of the pairs before them. -/
def OverflowsAt (q : Query) (v : Json) : Prop :=
  ∃ left right ls rs before a after, q = .arith .mod left right ∧ eval left v = .ok ls ∧
    eval right v = .ok rs ∧
    (ls.flatMap fun l => rs.map fun r => (l, r)) = before ++ a :: after ∧
    (∀ b ∈ before, ∃ x, combine .mod b.1 b.2 = .ok x) ∧ Critical a.1 a.2

/-- Evaluating a query on a value gets to a remainder of critical operands. -/
def Overflows (q : Query) (v : Json) : Prop :=
  ∃ p w, Reaches p w q v ∧ OverflowsAt p w

theorem Overflows.step {q q' : Query} {v v' : Json} (hvisit : Visits q v q' v')
    (h : Overflows q' v') : Overflows q v := by
  rcases h with ⟨p, w, hreach, hoverflow⟩
  exact ⟨p, w, .step hvisit hreach, hoverflow⟩

/-! ## An overflow ends the run -/

/-- An argument that overflows ends the function it is given to, except for `map`. -/
theorem applyUnary_of_argument {f : Builtin} (hf : f.arity = 1) (hmap : f ≠ .map)
    {argument : Json → Stream} {v : Json} (h : argument v = .error .remainderOverflow) :
    applyUnary f argument v = .error .remainderOverflow := by
  cases f with
  | map => exact absurd rfl hmap
  | select | has | contains | startswith | endswith | test | split | join =>
      simp [applyUnary, textArgument, firstResult, h, Except.map, bind, Except.bind]
  | _ => cases hf

/-- An error that ends the run passes from a part to the whole. -/
theorem eval_of_visits {q q' : Query} {v v' : Json} (h : Visits q v q' v')
    (he : eval q' v' = .error .remainderOverflow) : eval q v = .error .remainderOverflow := by
  cases h with
  | field | target | iterate | pipeLeft | commaLeft | andLeft | orLeft | neg | compareLeft
  | arithLeft => simp [eval, he, bind, Except.bind]
  | not => simp [eval, he, Except.map]
  | array => simp [eval, evalItems, he, Except.map]
  -- the error is one that neither `?` nor `//` contains
  | optional => simp [eval, he, contained, Error.isFatal]
  | alternativeLeft => simp [eval, he, contained, Error.isFatal, bind, Except.bind]
  | position hts => simp [eval, he, hts, bind, Except.bind]
  | low => simp [eval, evalBound, firstResult, Except.map, he, bind, Except.bind]
  | high hl => simp [eval, evalBound, firstResult, Except.map, he, hl, bind, Except.bind]
  | sliced hl hh => simp [eval, he, hl, hh, bind, Except.bind]
  | pipeRight hl hbefore =>
      rw [eval_pipe, hl]
      exact forEach_eq_error_iff.2 ⟨_, _, _, rfl, hbefore, he⟩
  | commaRight hl => simp [eval, he, hl, bind, Except.bind, Except.map]
  | @alternativeRight left right v ls hl hnone =>
      have hfilter : ls.filter Json.isTruthy = [] :=
        List.filter_eq_nil_iff.2 fun l hmem => by simp [hnone l hmem]
      simp [eval, he, hl, hfilter, bind, Except.bind]
  -- the first left value that asks for the right side passes its error on
  | @andRight _ _ _ l ls hl hmem htruthy =>
      have hasked : ls.any Json.isTruthy = true := List.any_eq_true.2 ⟨l, hmem, htruthy⟩
      rw [eval_and_of_ok hl, he]
      exact (asking_error ..).trans (if_pos hasked)
  | @orRight _ _ _ l ls hl hmem hfalsy =>
      have hasked : ls.any (fun l => !l.isTruthy) = true :=
        List.any_eq_true.2 ⟨l, hmem, by simp [hfalsy]⟩
      rw [eval_or_of_ok hl, he]
      exact (asking_error ..).trans (if_pos hasked)
  | compareRight hl | arithRight hl => simp [eval, he, hl, bind, Except.bind]
  | argument harity hmap =>
      rw [eval_unary]
      exact applyUnary_of_argument harity hmap he
  | @element _ _ _ before after hchildren hbefore =>
      have hitems : forEach (before ++ v' :: after) (fun u => eval q' u) =
          .error .remainderOverflow :=
        forEach_eq_error_iff.2 ⟨before, v', after, rfl, hbefore, he⟩
      simp [eval_unary, applyUnary, hchildren, hitems, bind, Except.bind]

/-- An overflow at a query ends its evaluation. -/
theorem eval_of_overflowsAt {q : Query} {v : Json} (h : OverflowsAt q v) :
    eval q v = .error .remainderOverflow := by
  rcases h with ⟨left, right, ls, rs, before, a, after, rfl, hl, hr, hpairs, hbefore, hcritical⟩
  rw [eval_arith, hl, hr]
  exact forPairs_eq_error_iff.2
    ⟨before, a, after, hpairs, hbefore, combine_of_critical hcritical⟩

/-- An evaluation that gets to a remainder of critical operands ends the run. -/
theorem eval_of_overflows {q : Query} {v : Json} (h : Overflows q v) :
    eval q v = .error .remainderOverflow := by
  rcases h with ⟨p, w, hreach, hoverflow⟩
  induction hreach with
  | here => exact eval_of_overflowsAt hoverflow
  | step hvisit _ ih => exact eval_of_visits hvisit ih

/-! ## Nothing else ends the run -/

/-- Why the evaluation of a query on a value can fail. -/
def Cause (q : Query) (v : Json) (e : Error) : Prop :=
  e.IsOfRun ∨ e = .remainderOverflow ∧ Overflows q v

theorem Cause.step {q q' : Query} {v v' : Json} {e : Error} (hvisit : Visits q v q' v')
    (h : Cause q' v' e) : Cause q v e :=
  h.imp_right fun ⟨he, hoverflow⟩ => ⟨he, hoverflow.step hvisit⟩

/-- A text argument fails as its query does, or for not being one text. -/
theorem textArgument_fails {P : Error → Prop} (hrun : ∀ e, e.IsOfRun → P e) (f : Builtin)
    {argument : Json → Stream} {v : Json} (h : FailsOnly P (argument v)) :
    FailsOnly P (textArgument f argument v) := by
  refine .bind (h.map _) fun w _ => ?_
  cases w with
  | string s => exact .ok s
  | _ => exact .error (hrun _ trivial)

/-- A function with an argument fails as its argument does, or in evaluation. -/
theorem applyUnary_fails {P : Error → Prop} (hrun : ∀ e, e.IsOfRun → P e) {f : Builtin}
    (hf : f.arity = 1) (hmap : f ≠ .map) {argument : Json → Stream} {v : Json}
    (h : FailsOnly P (argument v)) : FailsOnly P (applyUnary f argument v) := by
  have htext := textArgument_fails hrun f h
  cases f with
  | map => exact absurd rfl hmap
  | select => exact h.map _
  | has =>
      exact .bind (h.map _) fun key _ => .bind ((hasKey_fails v key).mono hrun) fun _ _ => .ok _
  | contains => exact .bind h fun ws _ => .mapM fun w _ => ((isContained_fails v w).mono hrun).map _
  | startswith | endswith | split =>
      exact .bind htext fun _ _ => .bind ((textInput_fails _ v).mono hrun) fun _ _ => .ok _
  | test =>
      refine .bind htext fun pattern _ => .bind ?_ fun _ _ => .ok _
      exact (testPattern_fails pattern (textInput_fails _ v)).mono hrun
  | join =>
      refine .bind htext fun separator _ => .bind ((itemsOf_fails v).mono hrun) fun items _ => ?_
      exact .bind ((joinTexts_fails separator items).mono hrun) fun _ _ => .ok _
  | _ => cases hf

theorem Visits.mem_parts {q q' : Query} {v v' : Json} (h : Visits q v q' v') : q' ∈ q.parts := by
  cases h <;> simp [parts]

/-- The parts that an evaluation visits fail for reasons that are the whole's. -/
def PartsFail (q : Query) (v : Json) : Prop :=
  ∀ ⦃q' v'⦄, Visits q v q' v' → FailsOnly (Cause q v) (eval q' v')

theorem Cause.ofRun {α : Type} {q : Query} {v : Json} {x : Except Error α}
    (h : FailsOnly Error.IsOfRun x) : FailsOnly (Cause q v) x :=
  h.mono fun _ he => .inl he

section Forms

variable {v : Json}

/-- A slice fails for a cause if its parts do. -/
theorem slice_fails {target : Query} {low high : Option Query}
    (hparts : PartsFail (.slice target low high) v) :
    FailsOnly (Cause (.slice target low high) v) (eval (.slice target low high) v) := by
  have hlow : FailsOnly (Cause (.slice target low high) v) (evalBound low v) := by
    cases low with
    | none => exact .ok _
    | some low => exact (hparts .low).map _
  have hhigh : ∀ l, evalBound low v = .ok l →
      FailsOnly (Cause (.slice target low high) v) (evalBound high v) := by
    intro l hl
    cases high with
    | none => exact .ok _
    | some high => exact (hparts (.high hl)).map _
  refine .bind hlow fun l hl => .bind (hhigh l hl) fun h hh => ?_
  exact .bind (hparts (.sliced hl hh)) fun ws _ => .mapM fun w _ => .ofRun (part_fails w l h)

/-- A pipe fails for a cause if its parts do. -/
theorem pipe_fails {left right : Query} (hparts : PartsFail (.pipe left right) v) :
    FailsOnly (Cause (.pipe left right) v) (eval (.pipe left right) v) := by
  refine .bind (hparts .pipeLeft) fun ls hl e he => ?_
  rcases forEach_eq_error_iff.1 he with ⟨before, w, after, rfl, hbefore, hw⟩
  exact hparts (.pipeRight hl hbefore) e hw

/-- An alternative fails for a cause if its parts do. -/
theorem alternative_fails {left right : Query} (hparts : PartsFail (.alternative left right) v) :
    FailsOnly (Cause (.alternative left right) v) (eval (.alternative left right) v) := by
  refine .bind (.contained (hparts .alternativeLeft)) fun ls hl => ?_
  dsimp only
  split
  · rename_i hempty
    have hnone : ∀ l ∈ ls, l.isTruthy = false := by
      simpa [List.filter_eq_nil_iff] using hempty
    exact hparts (.alternativeRight hl hnone)
  · exact .ok _

/-- A conjunction fails for a cause if its parts do. -/
theorem and_fails {left right : Query} (hparts : PartsFail (.and left right) v) :
    FailsOnly (Cause (.and left right) v) (eval (.and left right) v) := by
  refine .bind (hparts .andLeft) fun ls hl => .forEach fun l hmem => ?_
  split
  · rename_i htruthy
    exact (hparts (.andRight hl hmem htruthy)).map _
  · exact .ok _

/-- A disjunction fails for a cause if its parts do. -/
theorem or_fails {left right : Query} (hparts : PartsFail (.or left right) v) :
    FailsOnly (Cause (.or left right) v) (eval (.or left right) v) := by
  refine .bind (hparts .orLeft) fun ls hl => .forEach fun l hmem => ?_
  split
  · exact .ok _
  · rename_i hfalsy
    exact (hparts (.orRight hl hmem (Bool.not_eq_true _ ▸ hfalsy))).map _

/-- Pairs of operands fail in evaluation, or the evaluation is at an overflow. -/
theorem arith_fails {op : Operator} {left right : Query}
    (hparts : PartsFail (.arith op left right) v) :
    FailsOnly (Cause (.arith op left right) v) (eval (.arith op left right) v) := by
  refine .bind (hparts .arithLeft) fun ls hl => .bind (hparts (.arithRight hl)) fun rs hr e he => ?_
  rcases forPairs_eq_error_iff.1 he with ⟨before, a, after, hpairs, hbefore, ha⟩
  rcases combine_fails op a.1 a.2 e ha with hrun | ⟨rfl, rfl, hcritical⟩
  · exact .inl hrun
  · -- the pairs before this one succeeded, so this is where the evaluation overflows
    have hhere : OverflowsAt (.arith .mod left right) v :=
      ⟨left, right, ls, rs, before, a, after, rfl, hl, hr, hpairs, hbefore, hcritical⟩
    exact .inr ⟨rfl, _, v, .here, hhere⟩

/-- Mapping fails for a cause if its argument does. -/
theorem map_fails {argument : Query} (hparts : PartsFail (.call .map [argument]) v) :
    FailsOnly (Cause (.call .map [argument]) v) (eval (.call .map [argument]) v) := by
  refine .bind (.ofRun (children_fails v)) fun ws hws => .bind (fun e he => ?_) fun _ _ => .ok _
  rcases forEach_eq_error_iff.1 he with ⟨before, w, after, rfl, hbefore, hw⟩
  exact hparts (.element hws hbefore) e hw

/-- A call with the number of arguments that its function has. -/
theorem call_fails {f : Builtin} {arguments : List Query} (harity : arguments.length = f.arity)
    (hparts : PartsFail (.call f arguments) v) :
    FailsOnly (Cause (.call f arguments) v) (eval (.call f arguments) v) := by
  cases arguments with
  | nil => exact .ofRun (applyNullary_fails harity.symm v)
  | cons argument more =>
      obtain rfl := eq_nil_of_arity harity
      by_cases hmap : f = .map
      · subst hmap
        exact map_fails hparts
      · have hargument := hparts (.argument harity.symm hmap)
        exact applyUnary_fails (fun e he => .inl he) harity.symm hmap hargument

end Forms

/-- A query that can be run fails in evaluation, or because it gets to an overflow. -/
theorem eval_cause (q : Query) : q.Runnable → ∀ v, FailsOnly (Cause q v) (eval q v) := by
  induction q using parts_induction with
  | step q ih =>
      intro hrunnable v
      rcases throughout_iff.1 hrunnable with ⟨hfits, hthroughout⟩
      -- a part that is visited fails for a reason that is one of the whole
      have hparts : PartsFail q v := by
        intro q' v' hvisit
        have hmem := hvisit.mem_parts
        exact (ih q' hmem (hthroughout q' hmem) v').mono fun e he => he.step hvisit
      cases q with
      | identity | recurse | literal => exact .ok _
      | field target name =>
          refine .bind (hparts .field) fun ws _ => .mapM fun w _ => ?_
          exact .ofRun (member_fails w name)
      | index target position =>
          refine .bind (hparts .target) fun ts hts => .bind (hparts (.position hts)) fun ps _ => ?_
          exact .forPairs fun t _ p _ => .ofRun (item_fails t p)
      | slice target low high => exact slice_fails hparts
      | iterate target =>
          refine .bind (hparts .iterate) fun ws _ => .forEach fun w _ => ?_
          exact .ofRun (children_fails w)
      | optional inner => exact .contained (hparts .optional)
      | array inner =>
          cases inner with
          | none => exact .ok _
          | some inner => exact (hparts .array).map _
      | pipe left right => exact pipe_fails hparts
      | comma left right =>
          exact .bind (hparts .commaLeft) fun ls hl => (hparts (.commaRight hl)).map _
      | alternative left right => exact alternative_fails hparts
      | and left right => exact and_fails hparts
      | or left right => exact or_fails hparts
      | not inner => exact (hparts .not).map _
      | neg inner =>
          refine .bind (hparts .neg) fun ws _ => .mapM fun w _ => ?_
          exact .ofRun (negate_fails w)
      | compare op left right =>
          refine .bind (hparts .compareLeft) fun ls hl => ?_
          refine .bind (hparts (.compareRight hl)) fun rs _ => ?_
          exact .forPairs fun l _ r _ => .ok _
      | arith op left right => exact arith_fails hparts
      | call f arguments => exact call_fails hfits hparts

/-- What an evaluation reaches is a part of the query. -/
theorem Reaches.within {p q : Query} {w v : Json} (h : Reaches p w q v) : Within p q := by
  induction h with
  | here => exact .self
  | step hvisit _ ih => exact .part hvisit.mem_parts ih

/-- A query without a remainder inside never ends the run. -/
theorem eval_fails_of_no_remainder {q : Query} (hq : q.Runnable)
    (h : ∀ left right, ¬ Within (.arith .mod left right) q) (v : Json) :
    FailsOnly Error.IsOfRun (eval q v) := by
  intro e he
  rcases eval_cause q hq v e he with hrun | ⟨_, p, w, hreach, left, right, _, _, _, _, _, rfl, _⟩
  · exact hrun
  · exact absurd hreach.within (h left right)

/-! ## Queries that are read -/

/--
What is read from a text can be run: its calls have their number of arguments, its literals are
scalars and its ranges have an end. Every query inside, on every value, gives results or fails with
an error of evaluation, unless it gets to the remainder of the least integer by minus one.
-/
theorem read_runs {source : String} {q : Query} (h : read source = .ok q) :
    q.Throughout IsScalar ∧ ∀ p, Within p q → ∀ v,
      (((∃ vs, eval p v = .ok vs) ∨ ∃ e, eval p v = .error e ∧ e.IsOfRun) ↔ ¬ Overflows p v) ∧
        (eval p v = .error .remainderOverflow ↔ Overflows p v) := by
  have hrunnable := runnable_of_read h
  refine ⟨hrunnable, fun p hp v => ?_⟩
  have hcause := eval_cause p (Throughout.within hrunnable hp) v
  have hends : eval p v = .error .remainderOverflow ↔ Overflows p v := by
    refine ⟨fun he => ?_, eval_of_overflows⟩
    rcases hcause _ he with hrun | ⟨_, hoverflow⟩
    · exact hrun.elim
    · exact hoverflow
  refine ⟨?_, hends⟩
  rw [← hends]
  constructor
  · rintro (⟨vs, hvs⟩ | ⟨e, he, hrun⟩) hoverflow
    · rw [hvs] at hoverflow
      cases hoverflow
    · rw [he] at hoverflow
      cases hoverflow
      exact hrun
  · intro hnot
    cases hresult : eval p v with
    | ok vs => exact .inl ⟨vs, rfl⟩
    | error e =>
        rcases hcause e hresult with hrun | ⟨rfl, _⟩
        · exact .inr ⟨e, rfl, hrun⟩
        · exact absurd hresult hnot

/-- The rows from a position on, each with the remainder of its size by a step. -/
def mappedRemainders : Query :=
  .pipe (.slice (.field .identity "rows") (some (.field .identity "low")) none)
    (.call .map [.arith .mod (.field .identity "size") (.neg (.field .identity "step"))])

/-- A query with remainders inside of `map`, with all its parts and on every value. -/
theorem read_runs_of_mappedRemainders :
    read ".rows[.low:] | map(.size % -.step)" = .ok mappedRemainders ∧
      mappedRemainders.Throughout IsScalar ∧ ∀ p, Within p mappedRemainders → ∀ v,
        (((∃ vs, eval p v = .ok vs) ∨ ∃ e, eval p v = .error e ∧ e.IsOfRun) ↔
            ¬ Overflows p v) ∧
          (eval p v = .error .remainderOverflow ↔ Overflows p v) := by
  have hlex : (lex (normalize ".rows[.low:] | map(.size % -.step)".toList)).toOption =
      some [⟨.field "rows", 0⟩, ⟨.leftBracket, 5⟩, ⟨.field "low", 6⟩, ⟨.colon, 10⟩,
        ⟨.rightBracket, 11⟩, ⟨.pipe, 13⟩, ⟨.ident "map", 15⟩, ⟨.leftParen, 18⟩,
        ⟨.field "size", 19⟩, ⟨.operator .mod, 25⟩, ⟨.operator .sub, 27⟩, ⟨.field "step", 28⟩,
        ⟨.rightParen, 33⟩] := by decide +kernel
  have hread : read ".rows[.low:] | map(.size % -.step)" = .ok mappedRemainders := by
    rw [read]
    cases hlexed : lex (normalize ".rows[.low:] | map(.size % -.step)".toList) with
    | error e =>
        rw [hlexed] at hlex
        cases hlex
    | ok ls =>
        rw [hlexed] at hlex
        cases hlex
        rfl
  exact ⟨hread, read_runs hread⟩

/-- A remainder by minus one ends the run on the least integer. -/
theorem remainder_of_leastInteger_ends :
    ∃ q, read ". % -1" = .ok q ∧
      eval q (.number (.integer (-9223372036854775808))) = .error .remainderOverflow ∧
      ¬ Error.IsOfRun .remainderOverflow := by
  have hends : ((read ". % -1").toOption.map fun q =>
      (eval q (.number (.integer (-9223372036854775808)))).map fun _ => ()) =
        some (.error .remainderOverflow) := by decide +kernel
  rcases Option.map_eq_some_iff.1 hends with ⟨q, hq, hend⟩
  have hread : read ". % -1" = .ok q := by
    cases hresult : read ". % -1" with
    | error e =>
        rw [hresult] at hq
        cases hq
    | ok q' =>
        rw [hresult] at hq
        cases hq
        rfl
  refine ⟨q, hread, ?_, id⟩
  cases hresult : eval q (.number (.integer (-9223372036854775808))) with
  | ok vs =>
      rw [hresult] at hend
      cases hend
  | error e =>
      rw [hresult] at hend
      cases hend
      rfl

end Query
end Gleaner
