import Gleaner.Text.CodePoint
/-!
# Names of markup

The names of elements, attributes and processing instructions, as a document spells them.

* `isNameStart`, `isNameChar` are the characters of a name without a colon;
* `isSpace` are the four characters of white space in markup;
* `Spelled` is a name with an optional prefix, and `Spelled.read?` reads one;
* `Name` is a name whose prefix has been resolved to a namespace.
-/

namespace Gleaner
namespace Xml

def nameStartRanges : List (Nat × Nat) :=
  [(0x41, 0x5A), (0x5F, 0x5F), (0x61, 0x7A), (0xC0, 0xD6), (0xD8, 0xF6), (0xF8, 0x2FF),
    (0x370, 0x37D), (0x37F, 0x1FFF), (0x200C, 0x200D), (0x2070, 0x218F), (0x2C00, 0x2FEF),
    (0x3001, 0xD7FF), (0xF900, 0xFDCF), (0xFDF0, 0xFFFD), (0x10000, 0xEFFFF)]

def nameMoreRanges : List (Nat × Nat) :=
  [(0x2D, 0x2E), (0x30, 0x39), (0xB7, 0xB7), (0x300, 0x36F), (0x203F, 0x2040)]

def isNameStart (c : Char) : Bool :=
  Text.inRanges nameStartRanges c.toNat

def isNameChar (c : Char) : Bool :=
  isNameStart c || Text.inRanges nameMoreRanges c.toNat

def isSpace (c : Char) : Bool :=
  c == ' ' || c == '\t' || c == '\r' || c == '\n'

def skipSpace (cs : List Char) : List Char :=
  cs.dropWhile isSpace

def readName? : List Char → Option (String × List Char)
  | c :: rest =>
    if isNameStart c then
      some (String.ofList (c :: rest.takeWhile isNameChar), rest.dropWhile isNameChar)
    else none
  | [] => none

/-- A name as it is spelled: a base name, and a prefix where there is one. -/
structure Spelled where
  -- The part before the colon.
  front : Option String
  -- The part after the colon, or the whole name.
  base : String
  deriving DecidableEq, Repr

/-- The spelled name at the front; a colon belongs to it only when names stand on both sides. -/
def Spelled.read? (cs : List Char) : Option (Spelled × List Char) :=
  (readName? cs).map fun (first, rest) =>
    match rest with
    | ':' :: more =>
      match readName? more with
      | some (second, after) => (⟨some first, second⟩, after)
      | none => (⟨none, first⟩, rest)
    | _ => (⟨none, first⟩, rest)

/-- A name with its namespace, and the prefix with which it is shown. -/
structure Name where
  -- The namespace, for a name that has one.
  space : Option String
  base : String
  -- The prefix with which the name is shown.
  front : Option String
  deriving DecidableEq, Repr

/-- The name as it is shown: after its prefix and a colon, where it has a prefix. -/
def Name.shown (n : Name) : String :=
  match n.front with
  | some p => p ++ ":" ++ n.base
  | none => n.base

end Xml
end Gleaner
