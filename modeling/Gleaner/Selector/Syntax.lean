import Gleaner.Text.Blank
/-!
# Selectors

A selector is a condition on an element of a document and on its place among the others.

* `Combinator` is a relation between two elements, `AttributeTest` a condition on an attribute,
  `Position` one on the place among siblings;
* `Selector` is a condition; a chain of combinators becomes conditions on the elements before.
-/

namespace Gleaner

namespace Selector

inductive Combinator where
  -- The other element holds it at any depth.
  | descendant
  -- The other element holds it.
  | child
  -- The other element is the sibling right before it.
  | next
  -- The other element is a sibling before it.
  | later
  deriving DecidableEq, Repr

inductive Comparison where
  | equal
  -- One of the words of the value is the given one.
  | word
  -- The value is the given one, alone or before a hyphen.
  | dash
  | beginning
  | ending
  | part
  deriving DecidableEq, Repr

inductive CaseRule where
  -- It counts but for some attributes of hypertext.
  | byName
  | exact
  | folded
  deriving DecidableEq, Repr

structure AttributeTest where
  -- Whether the attribute may belong to any family.
  anyFamily : Bool
  -- The name of the attribute as it is written.
  name : String
  value : Option (Comparison × String × CaseRule)
  deriving DecidableEq, Repr

/-- A condition on the place among siblings: `step * k + offset` for some `k`, counted from one. -/
structure Position where
  -- Whether only siblings of the same name are counted.
  ofType : Bool
  -- Whether the count starts at the last sibling.
  fromEnd : Bool
  -- The distance of the places that are meant.
  step : Int
  -- One of the places.
  offset : Int
  deriving DecidableEq, Repr

end Selector

inductive Selector where
  | any
  | never
  | named (name : String)
  | className (name : String)
  | identifier (name : String)
  | attributed (test : Selector.AttributeTest)
  | position (p : Selector.Position)
  | outermost
  -- An element without elements and text in it.
  | hollow
  -- The element from which the selection starts.
  | scope
  -- The element for which `has` is decided.
  | anchor
  | both (a b : Selector)
  -- An element in the given relation satisfies the condition.
  | related (c : Selector.Combinator) (other : Selector)
  | anyOf (choices : List Selector)
  | not (s : Selector)
  | has (s : Selector)
  deriving Repr

namespace Selector

/-- The attributes of hypertext whose values are compared without regard to case. -/
def foldedAttributes : List String :=
  ["accept", "accept-charset", "align", "alink", "axis", "bgcolor", "charset", "checked", "clear",
    "codetype", "color", "compact", "declare", "defer", "dir", "direction", "disabled", "enctype",
    "face", "frame", "hreflang", "http-equiv", "lang", "language", "link", "media", "method",
    "multiple", "nohref", "noresize", "noshade", "nowrap", "readonly", "rel", "rev", "rules",
    "scope", "scrolling", "selected", "shape", "target", "text", "type", "valign", "valuetype",
    "vlink"]

end Selector
end Gleaner
