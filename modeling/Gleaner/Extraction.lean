import Gleaner.Selector.Matching
import Gleaner.Selector.Reader
/-!
# Extraction from hypertext

An expression on hypertext is a selector with an optional ending that says what is taken from the
elements: their text, their markup or an attribute. Without a selector the row itself is meant.

* `splitEnding` cuts the ending off;
* `Extractor.read` reads an expression, `readRoot` a selector of rows;
* `Extractor.results` are the texts that an expression extracts from a row.
-/

namespace Gleaner

inductive Extraction where
  -- The text, without blank characters at its ends.
  | text
  | markup
  | attr (name : String)
  deriving DecidableEq, Repr

namespace Extraction

inductive Error where
  | invalidSelector (selector : String)
  | unknownExtraction (name : String)
  | rootExtraction
  | emptyRoot
  deriving DecidableEq, Repr

def Error.message : Error → String
  | .invalidSelector selector => "invalid selector '" ++ selector ++ "': cannot be parsed"
  | .unknownExtraction name =>
    "unknown extraction '::" ++ name ++ "', expected ::text, ::html or ::attr(name)"
  | .rootExtraction => "root selector cannot use an extraction suffix"
  | .emptyRoot => "root selector must not be empty"

def splitAttribute? (cs : List Char) : Option (List Char × Extraction) := do
  let inner ← Text.dropSuffix? [')'] cs
  let (selector, name) ← Text.cutAtLast? "::attr(".toList inner
  let bare := Text.trim name
  if bare.isEmpty then none else some (selector, .attr (String.ofList bare))

/--
What precedes the ending, and what it takes. Two colons belong to the selector when a quote or a
closing bracket follows them.
-/
def splitEnding (cs : List Char) : Except Error (List Char × Option Extraction) :=
  match Text.dropSuffix? "::text".toList cs with
  | some selector => .ok (selector, some .text)
  | none =>
    match Text.dropSuffix? "::html".toList cs with
    | some selector => .ok (selector, some .markup)
    | none =>
      match splitAttribute? cs with
      | some (selector, taken) => .ok (selector, some taken)
      | none =>
        match Text.cutAtLast? [':', ':'] cs with
        | some (_, name) =>
          if name.any fun c => c == '"' || c == '\'' || c == ']' then .ok (cs, none)
          else .error (.unknownExtraction (String.ofList (Text.trim name)))
        | none => .ok (cs, none)

def readSelector (cs : List Char) : Except Error Selector :=
  match Selector.read? (String.ofList cs) with
  | some s => .ok s
  | none => .error (.invalidSelector (String.ofList cs))

/-- The selector of rows that a text writes; it has no ending. -/
def readRoot (s : String) : Except Error Selector :=
  let cs := Text.trim s.toList
  if cs.isEmpty then .error .emptyRoot
  else
    match splitEnding cs with
    | .ok (selector, none) => readSelector selector
    | _ => .error .rootExtraction

/-- What is taken from an element; an attribute may be missing. -/
def take? (taken : Extraction) (d : Html.Document) (n : Nat) : Option String :=
  match taken with
  | .text => some (Text.trimmed (d.node n).textContent)
  | .markup => some (d.node n).written
  | .attr name => (d.element? n).bind fun e => e.attribute? name

end Extraction

structure Extractor where
  -- The elements inside of the row that are meant; without a selector it is the row.
  selector : Option Selector
  taken : Extraction
  deriving Repr

namespace Extractor

/-- The expression that a text writes; without an ending the text is taken. -/
def read (s : String) : Except Extraction.Error Extractor := do
  let (front, taken) ← Extraction.splitEnding (Text.trim s.toList)
  let selector := Text.trim front
  if selector.isEmpty then .ok ⟨none, taken.getD .text⟩
  else do
    let parsed ← Extraction.readSelector selector
    .ok ⟨some parsed, taken.getD .text⟩

/-- The texts that an expression extracts from a row, in document order. -/
def results (x : Extractor) (d : Html.Document) (row : Nat) : List String :=
  match x.selector with
  | none => (x.taken.take? d row).toList
  | some s => (s.inside d row).filterMap (x.taken.take? d)

end Extractor
end Gleaner
