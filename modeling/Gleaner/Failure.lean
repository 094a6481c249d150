/-!
# Failures

A failure ends the run of a specification. It says what went wrong, and where: the part of the
specification, the row, and the expression as it was evaluated.

* `Failure.Kind` are the kinds of failures;
* `Failure.describe` is the whole text of a failure.
-/

namespace Gleaner

inductive Failure.Kind where
  | schemaValidation
  | invalidInput
  | invalidRootSelection
  | expressionEvaluation
  | missingVariable
  | missingValue
  | unsupportedOutputOption
  -- A remainder that overflows broke the run off; this is no error that a run returns.
  | aborted
  deriving DecidableEq, Repr

def Failure.Kind.name : Failure.Kind → String
  | .schemaValidation => "SchemaValidation"
  | .invalidInput => "InvalidInput"
  | .invalidRootSelection => "InvalidRootSelection"
  | .expressionEvaluation => "ExpressionEvaluation"
  | .missingVariable => "MissingVariable"
  | .missingValue => "MissingValue"
  | .unsupportedOutputOption => "UnsupportedOutputOption"
  | .aborted => "Aborted"

structure Failure where
  kind : Failure.Kind
  message : String
  path : Option String := none
  -- The position of the row among the selected rows.
  row : Option Nat := none
  -- The expression, with its holes filled.
  expr : Option String := none
  details : List String := []
  deriving DecidableEq, Repr

def Failure.describe (f : Failure) : String :=
  f.message ++
    (match f.path with
      | some path => " (path: " ++ path ++ ")"
      | none => "") ++
    (match f.row with
      | some row => " (row: " ++ toString row ++ ")"
      | none => "") ++
    (match f.expr with
      | some expr => " (expr: " ++ expr ++ ")"
      | none => "") ++
    String.join (f.details.map fun detail => "\n  - " ++ detail)

end Gleaner
