import Gleaner.Yaml.Reader
/-!
# The values of YAML scalars

A plain scalar may stand for null, a truth value or a number.

* `isNullText`, `truth?`, `unsigned?`, `integer?`, `real?` recognise them;
* `resolve?` decides what a plain scalar stands for;
* `Node.toJson?` is a node as a JSON value.
-/

namespace Gleaner
namespace Yaml

def isNullText (s : String) : Bool :=
  s == "null" || s == "Null" || s == "NULL" || s == "~"

def truth? (s : String) : Option Bool :=
  if s = "true" ∨ s = "True" ∨ s = "TRUE" then some true
  else if s = "false" ∨ s = "False" ∨ s = "FALSE" then some false
  else none

def digits? (base : Nat) (cs : List Char) : Option Nat :=
  if cs.isEmpty then none else Text.numeral? base cs

def isZeroPadded (cs : List Char) : Bool :=
  let cs :=
    match cs with
    | '-' :: rest | '+' :: rest => rest
    | cs => cs
  match cs with
  | '0' :: rest => !rest.isEmpty && rest.all Char.isDigit
  | _ => false

def based? : List Char → Option Nat
  | '0' :: 'x' :: rest => digits? 16 rest
  | '0' :: 'o' :: rest => digits? 8 rest
  | '0' :: 'b' :: rest => digits? 2 rest
  | _ => none

def magnitude? (cs : List Char) : Option Nat :=
  match based? cs with
  | some n => some n
  | none => if isZeroPadded cs then none else digits? 10 cs

def unsigned? (s : String) : Option Nat :=
  match s.toList with
  | '+' :: rest => magnitude? rest
  | cs => magnitude? cs

def integer? (s : String) : Option Int :=
  match s.toList with
  | '-' :: rest => (magnitude? rest).map fun n => -(n : Int)
  | _ => (unsigned? s).map Int.ofNat

/-- A number with a fraction or an exponent, or one of the words for infinities and no number. -/
def real? (s : String) : Option Binary64 :=
  let unsigned :=
    match s.toList with
    | '+' :: rest => rest
    | cs => cs
  let word := String.ofList unsigned
  if word = ".inf" ∨ word = ".Inf" ∨ word = ".INF" then some (.infinite false)
  else if s = "-.inf" ∨ s = "-.Inf" ∨ s = "-.INF" then some (.infinite true)
  else if s = ".nan" ∨ s = ".NaN" ∨ s = ".NAN" then some .nan
  else if unsigned.length < s.length ∧ (unsigned.head? = some '+' ∨ unsigned.head? = some '-') then
    none
  else
    match Binary64.ofText? unsigned with
    | some (.finite x) => some (.finite x)
    | _ => none

/-- The integers beyond 64 bits that are still recognised as integers, and refused. -/
def isWideInteger (n : Int) : Bool :=
  -(2 ^ 127) ≤ n && n < 2 ^ 128

/-- An integer as a value: one of 64 bits, signed or not. -/
def integerValue? (n : Int) : Option Json :=
  if Number.leastInteger ≤ n ∧ n < Number.integerBound then some (.number (.integer n)) else none

/-- A binary number as a value; what is not finite is null. -/
def realValue (x : Binary64) : Json :=
  match x with
  | .finite x => .number (.real x)
  | _ => .null

def recognisedInteger? (s : String) : Option Int :=
  (integer? s).filter isWideInteger

/-- What a plain scalar stands for; an integer that is too wide is refused. -/
def resolve? (s : String) : Option Json :=
  if s.isEmpty || isNullText s then some .null
  else
    match truth? s, recognisedInteger? s with
    | some b, _ => some (.bool b)
    | none, some n => integerValue? n
    | none, none =>
      if isZeroPadded s.toList then some (.string s)
      else
        match real? s with
        | some x => some (realValue x)
        | none => some (.string s)

def isForeignTag (tag : Option String) : Bool :=
  match tag with
  | none => false
  | some t =>
    match t.toList with
    | '!' :: _ :: _ => true
    | _ => false

def tagOf (name : String) : Option String :=
  some (coreTag name.toList)

def scalarValue? (text : String) (isPlain : Bool) (tag : Option String) : Option Json :=
  if isForeignTag tag then none
  else if tag = tagOf "bool" then (truth? text).map .bool
  else if tag = tagOf "int" then (integer? text).bind integerValue?
  else if tag = tagOf "float" then (real? text).map realValue
  else if tag = tagOf "null" then if isNullText text then some .null else none
  else if isPlain && (tag.isNone || tag == some "!") then resolve? text
  else some (.string text)

/-- The text of a scalar; other nodes have none. -/
def Node.text? : Node → Option String
  | .scalar text _ _ => some text
  | _ => none

def Node.isNull : Node → Bool
  | .scalar text isPlain tag =>
    (isPlain && tag.isNone && (text.isEmpty || isNullText text)) ||
      (tag == tagOf "null" && isNullText text)
  | _ => false

mutual

/-- The node as a JSON value; of two members of one name the later value counts. -/
def Node.toJson? : Node → Option Json
  | .scalar text isPlain tag => scalarValue? text isPlain tag
  | .sequence items tag =>
    if isForeignTag tag then none else (itemsToJson? items).map .array
  | .mapping entries tag =>
    if isForeignTag tag then none
    else (entriesToJson? entries).map fun members => .object (Members.insertAll [] members)

def itemsToJson? : List Node → Option (List Json)
  | [] => some []
  | node :: rest => do
    let v ← node.toJson?
    let vs ← itemsToJson? rest
    some (v :: vs)

/-- The entries as members; the keys have to be scalars. -/
def entriesToJson? : List (Node × Node) → Option (List (String × Json))
  | [] => some []
  | (key, node) :: rest => do
    let name ← key.text?
    let v ← node.toJson?
    let members ← entriesToJson? rest
    some ((name, v) :: members)

end

end Yaml
end Gleaner
