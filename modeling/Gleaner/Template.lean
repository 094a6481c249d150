import Gleaner.Spec.Basic
import Gleaner.Json.Written
import Gleaner.Query.Operators
import Gleaner.Text.Name
import Gleaner.XPath.Literal
/-!
# Templates

An expression may refer to a variable by writing its name between double braces. Before it is
compiled, each reference is replaced by a literal of the dialect, which is to keep a value from
being read as more than a value.

* `Template.pieces` cuts an expression into characters and holes;
* `Template.placeholders` lists the holes with their byte offsets and the characters around them;
* `Template.fill` fills the holes;
* `ParameterType.convert` brings a value to the declared type of its parameter.
-/

namespace Gleaner

/-- Bring a value to a declared type where its text allows it; otherwise leave it unchanged. -/
def ParameterType.convert (type : Option ParameterType) (v : Json) : Json :=
  match type, v with
  | some .number, .string s => ((Query.numberOfText? s).map Json.number).getD v
  | some .boolean, .string s =>
    let word := Text.asciiLower (Text.trimmed s)
    if word = "true" then .bool true else if word = "false" then .bool false else v
  | some .string, .number n => .string n.text
  | some .string, .bool b => .string (Json.bool b).text
  | _, v => v

namespace Template

/-- A character of an expression, or a hole for the value of a variable. -/
inductive Piece where
  | char (c : Char)
  | hole (name : String)
  deriving DecidableEq, Repr

/-- The name of a hole at the front of a text, and how many characters the hole takes up. -/
def holeAt? : List Char → Option (String × Nat)
  | '\x7b' :: '\x7b' :: c :: rest =>
    let name := c :: rest.takeWhile Text.isNameChar
    if Text.isNameStart c then
      match rest.drop (name.length - 1) with
      | '\x7d' :: '\x7d' :: _ => some (String.ofList name, name.length + 4)
      | _ => none
    else none
  | _ => none

def pieces (cs : List Char) : List Piece :=
  match cs with
  | [] => []
  | c :: rest =>
    match holeAt? (c :: rest) with
    | some (name, n) => .hole name :: pieces (rest.drop (n - 1))
    | none => .char c :: pieces rest
termination_by cs.length
decreasing_by
  all_goals simp only [List.length_cons, List.length_drop]
  all_goals omega

def hasHoles (s : String) : Bool :=
  (pieces s.toList).any fun p =>
    match p with
    | .hole _ => true
    | .char _ => false

def isQuote (c : Char) : Bool :=
  c == '"' || c == '\''

theorem isQuote_iff {c : Char} : isQuote c = true ↔ c = '"' ∨ c = '\'' := by
  simp [isQuote]

def enclosingQuote? (before after : Option Char) : Option Char :=
  match before, after with
  | some b, some a => if b = a && isQuote b then some b else none
  | _, _ => none

def Piece.source : Piece → List Char
  | .char c => [c]
  | .hole name => ['\x7b', '\x7b'] ++ name.toList ++ ['\x7d', '\x7d']

/-- A hole: its byte range, its name, and the characters around it. -/
structure Placeholder where
  start : Nat
  stop : Nat
  name : String
  before : Option Char
  after : Option Char
  deriving Repr

/-- The holes among pieces that begin at an offset, after the given character. -/
def placeholdersFrom (offset : Nat) (before : Option Char) : List Piece → List Placeholder
  | [] => []
  | .char c :: rest => placeholdersFrom (offset + c.utf8Size) (some c) rest
  | .hole name :: rest =>
    let stop := offset + Text.byteLength (Piece.hole name).source
    let after := (rest.flatMap Piece.source).head?
    ⟨offset, stop, name, before, after⟩ :: placeholdersFrom stop (some '\x7d') rest

def placeholders (s : String) : List Placeholder :=
  placeholdersFrom 0 none (pieces s.toList)

/-! ## Literals -/

/-- A value in a query: inside double quotes the inside of a string literal, otherwise JSON. -/
def jsonLiteral (quote : Option Char) (v : Json) : List Char :=
  if quote = some '"' then Json.escaped v.text.toList else v.compact.toList

/-- A value in a path: a number, a truth value, or a string expression. -/
def pathLiteral : Json → List Char
  | .number n => n.text.toList
  | .bool true => "true()".toList
  | .bool false => "false()".toList
  | v => XPath.literalChars v.text.toList

/-! ## Filling -/

/-- The values of variables, converted to their declared types. -/
structure Bindings where
  values : Members
  types : List (String × ParameterType)

/-- The declared type of a variable; of two declarations the later one counts. -/
def Bindings.type? (b : Bindings) (name : String) : Option ParameterType :=
  (b.types.reverse.find? fun (n, _) => n == name).map Prod.snd

/-- The value of a variable; the error is the name of one that has none. -/
def Bindings.value (b : Bindings) (name : String) : Except String Json :=
  match Members.get? name b.values with
  | some v => .ok (ParameterType.convert (b.type? name) v)
  | none => .error name

theorem Bindings.value_eq_convert {b : Bindings} {name : String} {v : Json}
    (h : Members.get? name b.values = some v) :
    b.value name = .ok (ParameterType.convert (b.type? name) v) := by
  rw [Bindings.value, h]

def fillQuery (b : Bindings) : (before : Option Char) → List Piece → Except String (List Char)
  | _, [] => .ok []
  | _, .char c :: rest => (fillQuery b (some c) rest).map (c :: ·)
  | before, .hole name :: rest => do
    let v ← b.value name
    let after :=
      match rest with
      | .char c :: _ => some c
      | _ => none
    let more ← fillQuery b none rest
    .ok (jsonLiteral (enclosingQuote? before after) v ++ more)

/--
Fill the holes of a path. A literal cannot hold its own quote, so a hole between two equal quotes is
replaced together with them, by a string expression.
-/
def fillPath (b : Bindings) : List Piece → Except String (List Char)
  | [] => .ok []
  | .char open' :: .hole name :: .char close :: rest =>
    if open' = close ∧ isQuote open' then do
      let v ← b.value name
      let more ← fillPath b rest
      .ok (XPath.literalChars v.text.toList ++ more)
    else (fillPath b (.hole name :: .char close :: rest)).map (open' :: ·)
  | .char c :: rest => (fillPath b rest).map (c :: ·)
  | .hole name :: rest => do
    let v ← b.value name
    let more ← fillPath b rest
    .ok (pathLiteral v ++ more)

/-- Fill the holes of a selector with the plain texts of the values. -/
def fillSelector (b : Bindings) : List Piece → Except String (List Char)
  | [] => .ok []
  | .char c :: rest => (fillSelector b rest).map (c :: ·)
  | .hole name :: rest => do
    let v ← b.value name
    let more ← fillSelector b rest
    .ok (v.text.toList ++ more)

/-- Fill the holes of an expression; the error is the first variable without a value. -/
def fill (dialect : Dialect) (b : Bindings) (s : String) : Except String String :=
  let ps := pieces s.toList
  let filled :=
    match dialect with
    | .json => fillQuery b none ps
    | .xml => fillPath b ps
    | .html => fillSelector b ps
  filled.map String.ofList

def missingMessage (name : String) : String :=
  "variable '" ++ name ++ "' is referenced but was not supplied"

end Template
end Gleaner
