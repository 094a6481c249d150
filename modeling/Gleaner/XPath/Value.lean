import Gleaner.Binary64.Decimal
import Gleaner.Text.Blank
import Gleaner.Xml.Document
import Gleaner.XPath.Syntax
/-!
# Values of paths

An expression of the path language has one of four kinds of values, and each kind can be read as a
truth value, a number or a string.

* `Value` is a value; the nodes of a set stand in document order;
* `Value.truth`, `Value.number`, `Value.text` are the readings;
* `Value.equal` compares two values of any kinds, `Value.related` by their numbers.
-/

namespace Gleaner
namespace XPath

inductive Value where
  -- A set of nodes, in document order.
  | nodes (ns : List Nat)
  | text (s : String)
  | number (x : Binary64)
  | bool (b : Bool)
  deriving DecidableEq, Repr

/-- The number that a text writes, with space around it; otherwise no number. -/
def numberOfText (s : String) : Binary64 :=
  (Binary64.ofText? (Text.trim s.toList)).getD .nan

/-- The text of a number: no exponent, and words for what is not finite. -/
def textOfNumber : Binary64 → String
  | .finite x => x.written Binary64.plainStyle
  | .infinite false => "Infinity"
  | .infinite true => "-Infinity"
  | .nan => "NaN"

namespace Value

/-- A value as a truth value: numbers other than zero, texts and sets that are not empty. -/
def truth : Value → Bool
  | .nodes ns => !ns.isEmpty
  | .text s => !s.isEmpty
  | .number x => !x.isZeroOrNan
  | .bool b => b

/-- A value as a string: a set has the text of its first node. -/
def asText (d : Xml.Document) : Value → String
  | .nodes ns => (ns.head?.map d.stringValue).getD ""
  | .text s => s
  | .number x => textOfNumber x
  | .bool b => toString b

/-- A value as a number: a set and a string are read as decimal text. -/
def asNumber (d : Xml.Document) : Value → Binary64
  | .nodes ns => numberOfText ((ns.head?.map d.stringValue).getD "")
  | .text s => numberOfText s
  | .number x => x
  | .bool b => .ofInt (if b then 1 else 0)

/--
Equality. A truth value is compared with truth values; a set equals another one, a number or a
string when some node does; then numbers are compared with numbers and texts with texts.
-/
def equal (d : Xml.Document) : Value → Value → Bool
  | .bool a, v | v, .bool a => a == v.truth
  | .nodes ms, .nodes ns =>
    let texts := ns.map d.stringValue
    ms.any fun m => texts.contains (d.stringValue m)
  | .nodes ns, .number x | .number x, .nodes ns =>
    ns.any fun n => (numberOfText (d.stringValue n)).sameValue x
  | .nodes ns, .text s | .text s, .nodes ns => ns.any fun n => d.stringValue n == s
  | .number x, v | v, .number x => x.sameValue (v.asNumber d)
  | .text s, .text t => s == t

/-- The order of the numbers of two values, for an operator of relation. -/
def related (op : Operator) (x y : Binary64) : Bool :=
  match x.compare? y, op with
  | some order, .lt => order == .lt
  | some order, .le => order != .gt
  | some order, .gt => order == .gt
  | some order, .ge => order != .lt
  | _, _ => false

def calculated (op : Operator) (x y : Binary64) : Binary64 :=
  match op with
  | .add => x.add y
  | .sub => x.sub y
  | .mul => x.mul y
  | .div => x.div y
  | .mod => x.rem y
  | _ => .nan

end Value

/-- The nearest integral number, a half going up; a result of zero keeps the sign. -/
def roundHalfUp (x : Binary64) : Binary64 :=
  let low := x.floor
  if x.sameValue low then x
  else
    let high := ((x.add x).sub low).floor
    if high.isNegative == x.isNegative then high else high.neg

end XPath
end Gleaner
