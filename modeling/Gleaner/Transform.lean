import Gleaner.Output.Render
import Gleaner.Plan
import Gleaner.Spec.Check
/-!
# Transformation

A transformation takes a specification, an input and variables to an output.

* `Limits` cap the number of rows;
* `Spec.values` are the values of the variables in a run: the defaults of the parameters below the
  given ones;
* `Spec.records`, `Spec.transform` run a specification, `Transform.ofText` and `Transform.ofBytes`
  one that is a text or an input of bytes.
-/

namespace Gleaner

structure Limits where
  limit : Option Nat
  preview : Option Nat
  deriving DecidableEq, Repr

namespace Limits

def none : Limits :=
  ⟨.none, .none⟩

/-- The cap in force: the smaller of the two. -/
def effective (l : Limits) : Option Nat :=
  match l.limit, l.preview with
  | some a, some b => some (min a b)
  | a, b => a.orElse fun _ => b

def cut {α : Type} (l : Limits) (rows : List α) : List α :=
  match l.effective with
  | some n => rows.take n
  | .none => rows

end Limits

namespace Spec

/-- The values of the variables in a run: the defaults of the parameters below the given ones. -/
def values (spec : Spec) (given : Members) : Members :=
  let defaults := spec.parameters.filterMap fun p => p.default.map (p.name, ·)
  Members.insertAll (Members.insertAll [] defaults) given

def evaluate (spec : Spec) (d : Document) (values : Members) : Except Failure (List Record) := do
  let plan ← Plan.make spec values
  plan.run d

/-- The records of an input within the limits, after the shape of the specification is checked. -/
def records (spec : Spec) (input : String) (given : Members) (limits : Limits) :
    Except Failure (List Record) := do
  let flaws := spec.shapeFlaws
  if flaws.isEmpty then do
    let d ← Document.read spec.input.dialect input
    let rows ← spec.evaluate d (spec.values given)
    .ok (limits.cut rows)
  else .error (Flaw.failure flaws)

def transform (spec : Spec) (input : String) (given : Members) (limits : Limits) :
    Except Failure String := do
  let rows ← spec.records input given limits
  Output.render rows spec.output spec.columnNames

end Spec

namespace Transform

/-- The output for an input of bytes, which have to be text. -/
def ofBytes (spec : Spec) (input : ByteArray) (given : Members) (limits : Limits) :
    Except Failure String :=
  match String.fromUTF8? input with
  | some text => spec.transform text given limits
  | none => .error (Document.invalidInput "input is not valid UTF-8: a byte sequence is malformed")

/-- The output for a specification that is a text, which is checked in full. -/
def ofText (source input : String) (given : Members) (limits : Limits) : Except Failure String := do
  let spec ← (Spec.ofText source).mapError Flaw.failure
  spec.transform input given limits

end Transform
end Gleaner
