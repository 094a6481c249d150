import Gleaner.Document
import Gleaner.Record
import Gleaner.Template
/-!
# Plans

A plan is a specification made ready to run: the variables are filled in and the expressions are
read.

* `Plan.make` makes a plan, `Plan.run` runs it on a document;
* `Plan.keeps` decides the filters for a row, `Plan.record?` takes the columns from it.

A row is dropped by the first filter that it does not pass. The filters after it and the columns are
then not looked at.
-/

namespace Gleaner

/-- A step of a plan: an expression with what failures say about it. -/
structure Plan.Step where
  path : String
  -- How messages call the step.
  label : String
  -- The text of the expression with its holes filled.
  expr : String
  expression : Expression

structure Plan where
  -- The expression that selects the rows, with its holes filled.
  root : String
  filters : List Plan.Step
  -- The columns with the expressions of their values.
  columns : List (Mapping × Plan.Step)
  onMissing : OnMissing

namespace Plan

/-- How messages call a filter: by its name, or by its position. -/
def filterLabel (i : Nat) (f : Filter) : String :=
  match f.name with
  | some name => "filter '" ++ name ++ "'"
  | none => "filter " ++ toString i

def mappingLabel (m : Mapping) : String :=
  "mapping '" ++ m.name ++ "'"

/-- The variables of a run with the types that the specification declares. -/
def bindings (spec : Spec) (values : Members) : Template.Bindings :=
  ⟨values, spec.parameters.map fun p => (p.name, p.type)⟩

def filled (spec : Spec) (values : Members) (expr path : String) : Except Failure String :=
  (Template.fill spec.input.dialect (bindings spec values) expr).mapError fun name =>
    { kind := .missingVariable, message := Template.missingMessage name, path := some path }

def Step.failure (path label expr : String) (row : Option Nat) (e : Expression.Error) : Failure :=
  { Document.expressionFailure .expressionEvaluation label e path expr with row := row }

def Step.make (spec : Spec) (values : Members) (path label expr : String) :
    Except Failure Step := do
  let text ← filled spec values expr (path ++ ".expr")
  let expression ←
    (Expression.read spec.input.dialect text).mapError (failure path label text none)
  .ok ⟨path, label, text, expression⟩

def makeFilters (spec : Spec) (values : Members) :
    (i : Nat) → List Filter → Except Failure (List Step)
  | _, [] => .ok []
  | i, f :: rest => do
    let step ← Step.make spec values (Spec.itemPath "filters" i) (filterLabel i f) f.expr
    let more ← makeFilters spec values (i + 1) rest
    .ok (step :: more)

def makeColumns (spec : Spec) (values : Members) :
    (i : Nat) → List Mapping → Except Failure (List (Mapping × Step))
  | _, [] => .ok []
  | i, m :: rest => do
    let step ← Step.make spec values (Spec.itemPath "mappings" i) (mappingLabel m) m.expr
    let more ← makeColumns spec values (i + 1) rest
    .ok ((m, step) :: more)

def make (spec : Spec) (values : Members) : Except Failure Plan := do
  let root ← filled spec values spec.input.root "input.root"
  let filters ← makeFilters spec values 0 spec.filters
  let columns ← makeColumns spec values 0 spec.mappings
  .ok ⟨root, filters, columns, spec.onMissing⟩

/-- Whether a row passes all filters; the first that it does not pass settles it. -/
def keeps (row : Row) (i : Nat) : List Step → Except Failure Bool
  | [] => .ok true
  | step :: rest => do
    let passes ←
      (step.expression.passes row).mapError (Step.failure step.path step.label step.expr (some i))
    if passes then keeps row i rest else .ok false

/-- The value of a column on a row: of its type, or its default. -/
def value? (row : Row) (i : Nat) (m : Mapping) (step : Step) : Except Failure Outcome := do
  let found ←
    (step.expression.outcome row).mapError (Step.failure step.path step.label step.expr (some i))
  .ok ((m.type.coerce found).orElse fun _ => m.default)

def missingValue (i : Nat) (step : Step) : Failure :=
  { kind := .missingValue
    message := step.label ++ " produced no value for row " ++ toString i
    path := some step.path
    row := some i
    expr := some step.expr }

/-- The columns of a row; nothing when the row is skipped for want of a value. -/
def record? (onMissing : OnMissing) (row : Row) (i : Nat) :
    (soFar : Record) → List (Mapping × Step) → Except Failure (Option Record)
  | soFar, [] => .ok (some soFar)
  | soFar, (m, step) :: rest => do
    match ← value? row i m step with
    | some v => record? onMissing row i (soFar.push m.name v) rest
    | none =>
      match onMissing with
      | .null => record? onMissing row i (soFar.push m.name .null) rest
      | .skipRow => .ok none
      | .error => .error (missingValue i step)

/-- What a row becomes: nothing when it is dropped or skipped. -/
def settle (p : Plan) (i : Nat) (row : Row) : Except Failure (Option Record) := do
  if ← keeps row i p.filters then record? p.onMissing row i .empty p.columns else .ok none

def settleAll (p : Plan) : (i : Nat) → List Row → Except Failure (List Record)
  | _, [] => .ok []
  | i, row :: rest => do
    let settled ← p.settle i row
    let more ← settleAll p (i + 1) rest
    .ok (settled.toList ++ more)

def run (p : Plan) (d : Document) : Except Failure (List Record) := do
  let rows ← d.rows p.root
  p.settleAll 0 rows

end Plan
end Gleaner
