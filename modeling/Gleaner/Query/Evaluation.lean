import Gleaner.Query.Operators
import Gleaner.Query.Grammar
import Gleaner.Pattern.Reader
/-!
# The results of queries

* `Query.eval` is the stream of results of a query on a value, or the error that ends it;
* `Builtin.apply` is the meaning of the functions, given the meanings of their arguments.

The evaluation recurses on the query: an argument of a function is passed on as a function from
values to streams.
-/

namespace Gleaner

abbrev Query.Stream :=
  Except Query.Error (List Json)

namespace Query

/-- The first result of a stream, or null if there is none. -/
def firstResult (s : Stream) : Except Error Json :=
  s.map fun vs => vs.head?.getD .null

/-- The results, or none if the stream ends in an error that can be contained. -/
def contained (s : Stream) : Stream :=
  match s with
  | .ok vs => .ok vs
  | .error e => if e.isFatal then .error e else .ok []

/-- Apply an operation to every pair of a left and a right value, the left one moving slower. -/
def forPairs (lefts rights : List Json) (f : Json → Json → Except Error Json) : Stream :=
  (lefts.flatMap fun l => rights.map fun r => (l, r)).mapM fun (l, r) => f l r

/-- The concatenation of the streams that a function gives for each value. -/
def forEach (vs : List Json) (f : Json → Stream) : Stream :=
  (vs.mapM f).map List.flatten

/-- A string argument of a function: the first result. -/
def textArgument (f : Builtin) (argument : Json → Stream) (input : Json) : Except Error String := do
  match ← firstResult (argument input) with
  | .string s => .ok s
  | other => .error (.mismatch (.argumentNotString f other.kind))

def textInput (f : Builtin) (input : Json) : Except Error String :=
  match input with
  | .string s => .ok s
  | other => .error (.mismatch (.notApplicable f other.kind))

def hasKey (v key : Json) : Except Error Bool :=
  match v, key with
  | .object members, .string k => .ok (Members.get? k members).isSome
  | .array items, .number n =>
    let x := n.toFinite
    .ok (0 ≤ x.scaled && x.trunc < items.length)
  | other, key => .error (.cannotIndex other.kind key.compact)

/-- The size of a value: of a number its absolute value, of a string its characters. -/
def lengthOf (v : Json) : Except Error Json :=
  match v with
  | .null => .ok (.ofNat 0)
  | .number n => .ok (.number (Number.ofFinite n.toFinite.abs))
  | .string s => .ok (.ofNat s.toList.length)
  | .array items => .ok (.ofNat items.length)
  | .object members => .ok (.ofNat members.length)
  | .bool _ => .error (.mismatch (.noLength .boolean))

/-- The keys of an object in ascending order, or the positions of an array. -/
def keysOf (v : Json) : Except Error Json :=
  match v with
  | .object members => .ok (.array ((Members.sortedKeys members).map .string))
  | .array items => .ok (.array ((List.range items.length).map .ofNat))
  | other => .error (.mismatch (.noKeys other.kind))

/-- The items or characters in reverse order; null has none. -/
def reversed (v : Json) : Except Error Json :=
  match v with
  | .array items => .ok (.array items.reverse)
  | .string s => .ok (.string (String.ofList s.toList.reverse))
  | .null => .ok (.array [])
  | other => .error (.mismatch (.notReversed other.kind))

def toNumber (v : Json) : Except Error Json :=
  match v with
  | .number n => .ok (.number n)
  | .string s =>
    match numberOfText? s with
    | some n => .ok (.number n)
    | none => .error (.mismatch (.notNumeric s))
  | other => .error (.mismatch (.notReadAsNumber other.kind))

/-- A string as itself, and any other value as its text in a document. -/
def toText (v : Json) : String :=
  match v with
  | .string s => s
  | other => other.compact

def itemsOf (v : Json) : Except Error (List Json) :=
  match v with
  | .array items => .ok items
  | other => .error (.cannotIterate other.kind)

/-- Whether a pattern, given by its text, matches some part of a text. -/
def testPattern (pattern : String) (text : Except Error String) : Except Error Json :=
  match Pattern.read? pattern with
  | some p => text.map fun s => .bool (p.occursIn s)
  | none => .error (.mismatch (.invalidPattern pattern))

def applyNullary (f : Builtin) (input : Json) : Stream :=
  match f with
  | .empty => .ok []
  | .length => (lengthOf input).map ([·])
  | .keys => (keysOf input).map ([·])
  | .first =>
    match input with
    | .array items => .ok [items.head?.getD .null]
    | other => .error (.cannotIndex other.kind "0")
  | .last =>
    match input with
    | .array items => .ok [items.getLast?.getD .null]
    | other => .error (.cannotIndex other.kind "-1")
  | .reverse => (reversed input).map ([·])
  | .add => do
    let total ← sum (← itemsOf input)
    .ok [total]
  | .min => (extremum .lt input).map ([·])
  | .max => (extremum .gt input).map ([·])
  | .tostring => .ok [.string (toText input)]
  | .tonumber => (toNumber input).map ([·])
  | .asciiDowncase => (textInput f input).map fun s => [.string (Text.asciiLower s)]
  | .asciiUpcase => (textInput f input).map fun s => [.string (Text.asciiUpper s)]
  | .type => .ok [.string input.kind.name]
  | f => .error (.unknownFunction f.name 0)

def applyUnary (f : Builtin) (argument : Json → Stream) (input : Json) : Stream :=
  match f with
  | .select =>
    (argument input).map fun conditions => (conditions.filter Json.isTruthy).map fun _ => input
  | .map => do
    let vs ← forEach (← children input) argument
    .ok [.array vs]
  | .has => do
    let known ← hasKey input (← firstResult (argument input))
    .ok [.bool known]
  | .contains => do
    (← argument input).mapM fun wanted => (isContained input wanted).map .bool
  | .startswith => do
    let front ← textArgument f argument input
    let s ← textInput f input
    .ok [.bool (Text.dropPrefix? front.toList s.toList).isSome]
  | .endswith => do
    let back ← textArgument f argument input
    let s ← textInput f input
    .ok [.bool (Text.dropSuffix? back.toList s.toList).isSome]
  | .test => do
    let pattern ← textArgument f argument input
    let result ← testPattern pattern (textInput f input)
    .ok [result]
  | .split => do
    let separator ← textArgument f argument input
    let s ← textInput f input
    .ok [splitText s separator]
  | .join => do
    let separator ← textArgument f argument input
    let joined ← joinTexts separator (← itemsOf input)
    .ok [joined]
  | f => .error (.unknownFunction f.name 1)

def applyBuiltin (f : Builtin) (arguments : List (Json → Stream)) (input : Json) : Stream :=
  match arguments with
  | [] => applyNullary f input
  | [argument] => applyUnary f argument input
  | more => .error (.unknownFunction f.name more.length)

/-- The truth values of a conjunction: the right side counts only where the left one is true. -/
def conjunction (lefts : List Json) (right : Stream) : Stream :=
  forEach lefts fun l =>
    if l.isTruthy then right.map fun rs => rs.map fun r => .bool r.isTruthy else .ok [.bool false]

/-- The truth values of a disjunction: the right side counts only where the left one is false. -/
def disjunction (lefts : List Json) (right : Stream) : Stream :=
  forEach lefts fun l =>
    if l.isTruthy then .ok [.bool true] else right.map fun rs => rs.map fun r => .bool r.isTruthy

mutual

def eval : Query → Json → Stream
  | .identity, v => .ok [v]
  | .recurse, v => .ok v.everyValue
  | .literal value, _ => .ok [value]
  | .field target name, v => do
    (← eval target v).mapM fun w => member w name
  | .index target position, v => do
    let targets ← eval target v
    forPairs targets (← eval position v) item
  | .slice target low high, v => do
    let low ← evalBound low v
    let high ← evalBound high v
    (← eval target v).mapM fun w => part w low high
  | .iterate target, v => do
    forEach (← eval target v) children
  | .optional inner, v => contained (eval inner v)
  | .array inner, v => (evalItems inner v).map fun items => [.array items]
  | .pipe left right, v => do
    forEach (← eval left v) (fun w => eval right w)
  | .comma left right, v => do
    let first ← eval left v
    (eval right v).map (first ++ ·)
  | .alternative left right, v => do
    let truthy := (← contained (eval left v)).filter Json.isTruthy
    if truthy.isEmpty then eval right v else .ok truthy
  | .and left right, v => do
    conjunction (← eval left v) (eval right v)
  | .or left right, v => do
    disjunction (← eval left v) (eval right v)
  | .not inner, v => (eval inner v).map fun ws => ws.map fun w => .bool !w.isTruthy
  | .neg inner, v => do
    (← eval inner v).mapM negate
  | .compare op left right, v => do
    let lefts ← eval left v
    forPairs lefts (← eval right v) fun l r => .ok (.bool (op.holds (Json.compare l r)))
  | .arith op left right, v => do
    let lefts ← eval left v
    forPairs lefts (← eval right v) (combine op)
  | .call f arguments, v => applyBuiltin f (meanings arguments) v

/-- The first result of an end of a range; a missing one is null. -/
def evalBound : Option Query → Json → Except Error Json
  | none, _ => .ok .null
  | some q, v => firstResult (eval q v)

def evalItems : Option Query → Json → Stream
  | none, _ => .ok []
  | some q, v => eval q v

def meanings : List Query → List (Json → Stream)
  | [] => []
  | q :: rest => (fun v => eval q v) :: meanings rest

end

end Query
end Gleaner
