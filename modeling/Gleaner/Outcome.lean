import Gleaner.Spec.Basic
import Gleaner.Query.Operators
/-!
# Outcomes

The outcome of an expression on a row is a value, or nothing.

* `Outcome.ofResults` makes one outcome of a list of results;
* `ValueType.coerce` brings an outcome to the declared type of a column.
-/

namespace Gleaner

abbrev Outcome :=
  Option Json

/-- No result is nothing, and so is a single null; one result is itself, several are an array. -/
def Outcome.ofResults : List Json → Outcome
  | [] => none
  | [.null] => none
  | [v] => some v
  | vs => some (.array vs)

namespace ValueType

def trueWords : List String :=
  ["true", "1", "yes", "y", "on"]

def falseWords : List String :=
  ["false", "0", "no", "n", "off"]

/-- The truth value that a word stands for, in any case and with space around it. -/
def truthOfWord? (s : String) : Option Bool :=
  let word := Text.asciiLower (Text.trimmed s)
  if trueWords.contains word then some true
  else if falseWords.contains word then some false
  else none

/-- A value as a number: numbers, and strings that write one. -/
def asNumber? : Json → Outcome
  | .number n => some (.number n)
  | .string s => (Query.numberOfText? s).map .number
  | _ => none

/-- A value as a truth value: truth values, one and zero, and the words for them. -/
def asBoolean? : Json → Outcome
  | .bool b => some (.bool b)
  | .number n =>
    let x := n.toFinite
    if x.compare (Binary64.Finite.ofInt 1) = .eq then some (.bool true)
    else if x.isZero then some (.bool false)
    else none
  | .string s => (truthOfWord? s).map .bool
  | _ => none

/-- Bring an outcome to a column type; a value that does not fit the type becomes nothing. -/
def coerce (type : ValueType) (o : Outcome) : Outcome :=
  match type with
  | .string | .date | .any => o
  | .number => o.bind asNumber?
  | .boolean => o.bind asBoolean?

end ValueType
end Gleaner
