import Gleaner.Failure
import Gleaner.Json.Written
/-!
# Output options

Options are the members of an object. An option that is absent or null has its default value.

* `Output.boolOption`, `Output.textOption` read an option of a type;
* `Output.delimiter`, `Output.tagOption` read the options with rules of their own;
* `Output.isTagName` says which names elements may have.
-/

namespace Gleaner
namespace Output

def optionPath (key : String) : String :=
  "output.options." ++ key

def optionFailure (key message : String) : Failure :=
  { kind := .unsupportedOutputOption, message, path := some (optionPath key) }

def boolOption (options : Members) (key : String) (default : Bool) : Except Failure Bool :=
  match Members.get? key options with
  | none | some .null => .ok default
  | some (.bool b) => .ok b
  | some other =>
    .error (optionFailure key ("option '" ++ key ++ "' must be a boolean, got " ++ other.compact))

def textOption (options : Members) (key default : String) : Except Failure String :=
  match Members.get? key options with
  | none | some .null => .ok default
  | some (.string s) => .ok s
  | some other =>
    .error (optionFailure key ("option '" ++ key ++ "' must be a string, got " ++ other.compact))

/-- Whether a character may separate fields: ASCII, no quote and no line end. -/
def isDelimiter (c : Char) : Bool :=
  c.toNat < 128 && c != '"' && c != '\n' && c != '\r'

/-- The character between fields; it is a comma by default. -/
def delimiter (options : Members) : Except Failure Char := do
  let s ← textOption options "delimiter" ","
  match s.toList with
  | [c] =>
    if isDelimiter c then .ok c
    else .error (optionFailure "delimiter" ("delimiter '" ++ s ++ "' cannot be used"))
  | cs =>
    .error (optionFailure "delimiter"
      ("delimiter must be exactly one character, got " ++ toString cs.length ++ " characters"))

def isTagStart (c : Char) : Bool :=
  c.isAlpha || c == '_'

def isTagChar (c : Char) : Bool :=
  c.isAlphanum || c == '.' || c == '_' || c == '-'

/-- Whether a text can be the name of an element: the names that begin with `xml` are reserved. -/
def isTagName (s : String) : Bool :=
  match s.toList with
  | [] => false
  | c :: rest =>
    isTagStart c && rest.all isTagChar &&
      (Text.dropPrefix? ['x', 'm', 'l'] ((c :: rest).map Text.asciiLowerChar)).isNone

def tagOption (options : Members) (key default : String) : Except Failure String := do
  let tag ← textOption options key default
  if isTagName tag then .ok tag
  else .error (optionFailure key ("'" ++ tag ++ "' is not a valid tag name"))

end Output
end Gleaner
