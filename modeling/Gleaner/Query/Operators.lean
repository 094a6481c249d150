import Gleaner.Json.Order
import Gleaner.Query.Token
/-!
# Operations on values

The operations that queries are made of, each on single values.

* `member`, `item`, `part` select from a value by name, position and range;
* `combine` is arithmetic, `negate` its unary minus;
* `isContained` says whether a value holds another one;
* `splitText`, `joinTexts` cut and join strings, `extremum` picks a least or greatest item.
-/

namespace Gleaner
namespace Query

/-! ## Selection -/

/-- The member of a name; null has every member, with the value null. -/
def member (v : Json) (key : String) : Except Error Json :=
  match v with
  | .object members => .ok ((Members.get? key members).getD .null)
  | .null => .ok .null
  | other => .error (.cannotIndex other.kind ("\"" ++ key ++ "\""))

def leastInt64 : Int :=
  -(2 ^ 63)

def greatestInt64 : Int :=
  2 ^ 63 - 1

/-- The nearest integer of 64 bits. -/
def toInt64 (n : Int) : Int :=
  max leastInt64 (min n greatestInt64)

/-- The position that an index means among `length` items: a negative one counts from the end. -/
def resolved (length : Nat) (n : Number) : Int :=
  let i := toInt64 n.toFinite.floor
  if i < 0 then length + i else i

/-- The item at a position, or the member of a name; null has every one. -/
def item (v position : Json) : Except Error Json :=
  match v, position with
  | .object members, .string key => .ok ((Members.get? key members).getD .null)
  | .array items, .number n =>
    let i := resolved items.length n
    .ok (if i < 0 then .null else items[i.toNat]?.getD .null)
  | .null, .string _ | .null, .number _ => .ok .null
  | other, position => .error (.cannotIndex other.kind position.compact)

/-- The position of an end of a range; what is no number stands for `default`. -/
def bound (length : Nat) (position : Json) (default : Nat) : Nat :=
  match position with
  | .number n => (max 0 (min (resolved length n) length)).toNat
  | _ => default

/-- The start and the end of a range, the end not before the start. -/
def bounds (length : Nat) (low high : Json) : Nat × Nat :=
  let start := bound length low 0
  (start, max start (bound length high length))

def between {α : Type} (range : Nat × Nat) (xs : List α) : List α :=
  (xs.take range.2).drop range.1

def part (v low high : Json) : Except Error Json :=
  match v with
  | .array items => .ok (.array (between (bounds items.length low high) items))
  | .string s =>
    .ok (.string (String.ofList (between (bounds s.toList.length low high) s.toList)))
  | .null => .ok .null
  | other => .error (.cannotIndex other.kind "slice")

def children (v : Json) : Except Error (List Json) :=
  match v with
  | .array items => .ok items
  | .object members => .ok (Members.values members)
  | other => .error (.cannotIterate other.kind)

/-! ## Arithmetic -/

/-- The result of an arithmetical operation as a value; it has to be finite. -/
def numeric (x : Binary64) : Except Error Json :=
  match Number.ofBinary? x with
  | some n => .ok (.number n)
  | none => .error (.mismatch .overflow)

/-- The remainder of the truncated operands, with the sign of the dividend. -/
def remainder (l r : Binary64.Finite) : Except Error Json :=
  let l := toInt64 l.trunc
  let r := toInt64 r.trunc
  if r = 0 then .error (.mismatch .divisionByZero)
  else if l = leastInt64 ∧ r = -1 then .error .remainderOverflow
  else numeric (Binary64.ofInt (l.tmod r))

def combineNumbers (op : Operator) (l r : Binary64.Finite) : Except Error Json :=
  match op with
  | .add => numeric (l.add r)
  | .sub => numeric (l.add r.neg)
  | .mul => numeric (l.mul r)
  | .div => if r.isZero then .error (.mismatch .divisionByZero) else numeric (l.div r)
  | .mod => if r.isZero then .error (.mismatch .divisionByZero) else remainder l r

/-- The parts of a text between the occurrences of a separator; an empty text has none. -/
def splitText (text separator : String) : Json :=
  if text.isEmpty then .array []
  else
    .array ((Text.pieces separator.toList text.toList).map fun cs => .string (String.ofList cs))

/--
The operators on values. Null is the unit of addition; strings, arrays and objects are added by
joining them, arrays are subtracted item by item, and strings divided by splitting.
-/
def combine (op : Operator) (l r : Json) : Except Error Json :=
  match op, l, r with
  | .add, .null, other | .add, other, .null => .ok other
  | op, .number m, .number n => combineNumbers op m.toFinite n.toFinite
  | .add, .string s, .string t => .ok (.string (s ++ t))
  | .add, .array xs, .array ys => .ok (.array (xs ++ ys))
  | .add, .object ms, .object ns => .ok (.object (Members.insertAll ms ns))
  | .sub, .array xs, .array ys => .ok (.array (xs.filter fun x => !ys.any (Json.same x)))
  | .div, .string s, .string t => .ok (splitText s t)
  | op, l, r => .error (.mismatch (.notCombined l.kind r.kind op))

def negate (v : Json) : Except Error Json :=
  match v with
  | .number n => .ok (.number (Number.ofFinite n.toFinite.neg))
  | other => .error (.mismatch (.notNegated other.kind))

/-- The sum of the items, from left to right; nothing is the sum of none. -/
def sum (items : List Json) : Except Error Json :=
  items.foldlM (combine .add) .null

/-! ## Containment -/

mutual

/--
Whether a value holds another one: a string its substrings, an array every array whose items are
each held by one of its own, an object every object whose members are held by its own, and any other
value its equals.
-/
def isContained (container : Json) : (contained : Json) → Except Error Bool
  | .string part =>
    match container with
    | .string s => .ok (Text.contains s part)
    | other => .error (.mismatch (.notContained other.kind .string))
  | .array wanted =>
    match container with
    | .array items => .ok (holdsItems items wanted)
    | other => .error (.mismatch (.notContained other.kind .array))
  | .object wanted =>
    match container with
    | .object members => holdsMembers members wanted
    | other => .error (.mismatch (.notContained other.kind .object))
  | scalar =>
    if container.kind = scalar.kind then .ok (Json.compare container scalar == .eq)
    else .error (.mismatch (.notContained container.kind scalar.kind))

def holdsItems (items : List Json) : (wanted : List Json) → Bool
  | [] => true
  | w :: rest =>
    (items.any fun candidate => (isContained candidate w).toOption.getD false) &&
      holdsItems items rest

def holdsMembers (members : Members) : (wanted : List (String × Json)) → Except Error Bool
  | [] => .ok true
  | (key, w) :: rest =>
    match Members.get? key members with
    | none => .ok false
    | some candidate =>
      match isContained candidate w with
      | .error e => .error e
      | .ok false => .ok false
      | .ok true => holdsMembers members rest

end

/-! ## Arrays and strings -/

/-- The first item whose order to the best item before it is the wanted one, or the best before. -/
def better (wanted : Ordering) (best : Option Json) (v : Json) : Option Json :=
  match best with
  | none => some v
  | some current => if Json.compare v current = wanted then some v else some current

/-- The first least or greatest item: `wanted` is its order to the others. -/
def extremum (wanted : Ordering) (v : Json) : Except Error Json :=
  match v with
  | .array items => .ok ((items.foldl (better wanted) none).getD .null)
  | other => .error (.mismatch (.noExtremum other.kind))

/-- The plain text of a value that is neither an array nor an object. -/
def scalarText (v : Json) : Except Error String :=
  match v with
  | .array _ | .object _ => .error (.mismatch (.notJoined v.kind))
  | scalar => .ok scalar.text

/-- The plain texts of the items with a separator between neighbours. -/
def joinTexts (separator : String) (items : List Json) : Except Error Json := do
  let parts ← items.mapM scalarText
  .ok (.string (Text.joinWith separator parts))

def numberOfText? (text : String) : Option Number :=
  (Binary64.ofText? (Text.trim text.toList)).bind Number.ofBinary?

end Query
end Gleaner
