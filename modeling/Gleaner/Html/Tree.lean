import Gleaner.Html.Token
/-!
# Trees of hypertext

* `Element` is an element without its children: its vocabulary, name and attributes;
* `Node` is a node with all below it;
* `Node.textContent` is the text below a node, `Node.written` the markup of a node.

The markup of a node shows its attributes in the order of their names.
-/

namespace Gleaner
namespace Html

inductive Vocabulary where
  | html | svg | math
  deriving DecidableEq, Repr

/-- The family of an attribute: plain, or one of those that come from another vocabulary. -/
inductive Family where
  | plain
  -- The declaration of the vocabulary.
  | declaration
  -- An attribute of links.
  | link
  -- An attribute of markup in general.
  | markup
  -- The declaration of a prefix.
  | binding
  deriving DecidableEq, Repr

/-- The place of a family in the order in which attributes are shown. -/
def Family.rank : Family → Nat
  | .plain => 0
  | .declaration => 1
  | .link => 2
  | .markup => 3
  | .binding => 4

def Family.front : Family → String
  | .plain | .declaration => ""
  | .link => "xlink:"
  | .markup => "xml:"
  | .binding => "xmlns:"

structure Attribute where
  family : Family
  -- The name without prefix.
  name : String
  value : String
  deriving DecidableEq, Repr

namespace Attribute

def plain (name value : String) : Attribute :=
  ⟨.plain, name, value⟩

/-- The order in which attributes are shown: by family, then by name. -/
def isBefore (a b : Attribute) : Bool :=
  if a.family ≠ b.family then a.family.rank < b.family.rank else a.name ≤ b.name

def shownName (a : Attribute) : String :=
  a.family.front ++ a.name

end Attribute

structure Element where
  vocabulary : Vocabulary
  -- The name, in lower case except for some foreign elements.
  name : String
  attributes : List Attribute
  deriving DecidableEq, Repr

namespace Element

def isNamed (e : Element) (name : String) : Bool :=
  e.vocabulary == .html && e.name == name

/-- Whether this is an element of hypertext with one of the given names. -/
def isAmong (e : Element) (names : List String) : Bool :=
  e.vocabulary == .html && names.contains e.name

def attribute? (e : Element) (name : String) : Option String :=
  (e.attributes.find? fun a => a.family == .plain && a.name == name).map (·.value)

end Element

/-- A node with all below it; `made` is the rank of an element among those that were created. -/
inductive Node where
  | document (children : List Node)
  | doctype (name : String)
  | element (e : Element) (made : Nat) (children : List Node)
  | text (s : String)
  | comment (s : String)

def voidNames : List String :=
  ["area", "base", "basefont", "bgsound", "br", "col", "embed", "frame", "hr", "img", "input",
    "keygen", "link", "meta", "param", "source", "track", "wbr"]

def rawNames : List String :=
  ["style", "script", "xmp", "iframe", "noembed", "noframes", "plaintext", "noscript"]

/-- How a character of text or, `inValue`, of an attribute's value is written. -/
def escapedChar (inValue : Bool) (c : Char) : String :=
  if c = '&' then "&amp;"
  else if c = Char.ofNat 0xA0 then "&nbsp;"
  else if c = '"' ∧ inValue then "&quot;"
  else if c = '<' ∧ !inValue then "&lt;"
  else if c = '>' ∧ !inValue then "&gt;"
  else c.toString

def escaped (inValue : Bool) (s : String) : String :=
  String.join (s.toList.map (escapedChar inValue))

def Attribute.written (a : Attribute) : String :=
  " " ++ a.shownName ++ "=\"" ++ escaped true a.value ++ "\""

def Element.openingTag (e : Element) : String :=
  let attributes := e.attributes.mergeSort Attribute.isBefore
  "<" ++ e.name ++ String.join (attributes.map Attribute.written) ++ ">"

namespace Node

mutual

def textContent : Node → String
  | .document children | .element _ _ children => textOfAll children
  | .text s => s
  | .doctype _ | .comment _ => ""

def textOfAll : List Node → String
  | [] => ""
  | node :: rest => node.textContent ++ textOfAll rest

end

mutual

/-- The markup of a node; `raw` inside of elements whose text is not escaped. -/
def writtenIn (raw : Bool) : Node → String
  | .document children => writtenAll false children
  | .doctype name => "<!DOCTYPE " ++ name ++ ">"
  | .text s => if raw then s else escaped false s
  | .comment s => "<!--" ++ s ++ "-->"
  | .element e _ children =>
    if e.isAmong voidNames then e.openingTag
    else
      e.openingTag ++ writtenAll (e.isAmong rawNames) children ++ "</" ++ e.name ++ ">"

def writtenAll (raw : Bool) : List Node → String
  | [] => ""
  | node :: rest => writtenIn raw node ++ writtenAll raw rest

end

def written (node : Node) : String :=
  writtenIn false node

def element? : Node → Option Element
  | .element e _ _ => some e
  | _ => none

def children : Node → List Node
  | .document children | .element _ _ children => children
  | _ => []

end Node

end Html
end Gleaner
