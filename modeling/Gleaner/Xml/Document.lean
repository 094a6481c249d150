import Gleaner.Outline
import Gleaner.Xml.Tree
/-!
# Documents of markup

A document numbers its nodes in document order: the root is 0, an element comes before the prefixes
in force at it, these before its attributes, and these before its children. A node is known by its
number, so document order is the order of numbers.

* `Document.ofTree` numbers the nodes of a tree;
* `parent?`, `children`, `attributes`, `ancestors`, `descendants`, `following` and the rest are the
  relations between nodes, each list in the order in which one meets the nodes going away;
* `stringValue` is the text of a node.
-/

namespace Gleaner
namespace Xml

inductive Content where
  | root
  | element (name : Name)
  -- A prefix in force at an element, and its namespace.
  | binding (front : String) (space : String)
  | attr (name : Name) (value : String)
  | text (s : String)
  | comment (s : String)
  | instruction (target : String) (content : String)
  deriving DecidableEq, Repr

/-- A document: its nodes by number. -/
structure Document where
  outline : Outline Content

namespace Document

mutual

/-- Number a node and all below it, inside the node `holder`. -/
def number (holder : Nat) (done : Outline Content) : Node → Outline Content
  | .text s => done.leaf holder (.text s)
  | .comment s => done.leaf holder (.comment s)
  | .instruction target content => done.leaf holder (.instruction target content)
  | .element name scope attributes children =>
    let here := done.size
    let own :=
      scope.fronts.map (fun (front, space) => Content.binding front space) ++
        attributes.map fun (n, value) => Content.attr n value
    let opened := own.foldl (fun o content => o.leaf here content)
      (done.leaf holder (.element name))
    (numberAll here opened children).close here

def numberAll (holder : Nat) (done : Outline Content) : List Node → Outline Content
  | [] => done
  | node :: rest => numberAll holder (number holder done node) rest

end

def ofTree (top : List Node) : Document :=
  ⟨(numberAll 0 (Outline.empty.leaf 0 .root) top).close 0⟩

def read? (s : String) : Option Document :=
  (Tree.read? s).map ofTree

def root : Nat :=
  0

def content (d : Document) (n : Nat) : Content :=
  (d.outline.content? n).getD .root

def parent? (d : Document) (n : Nat) : Option Nat :=
  d.outline.parent? n

def ancestors (d : Document) (n : Nat) : List Nat :=
  d.outline.ancestors n

def isChild (d : Document) (n : Nat) : Bool :=
  match d.content n with
  | .element _ | .text _ | .comment _ | .instruction .. => true
  | .root | .binding .. | .attr .. => false

def children (d : Document) (n : Nat) : List Nat :=
  (d.outline.held n).filter d.isChild

def attributes (d : Document) (n : Nat) : List Nat :=
  (d.outline.held n).filter fun m =>
    match d.content m with
    | .attr .. => true
    | _ => false

def bindings (d : Document) (n : Nat) : List Nat :=
  (d.outline.held n).filter fun m =>
    match d.content m with
    | .binding .. => true
    | _ => false

def descendants (d : Document) (n : Nat) : List Nat :=
  (d.outline.below n).filter d.isChild

def followingSiblings (d : Document) (n : Nat) : List Nat :=
  if d.isChild n then
    match d.parent? n with
    | some p => (d.children p).filter fun m => n < m
    | none => []
  else []

/-- The children of the same node that come before a child, the nearest first. -/
def precedingSiblings (d : Document) (n : Nat) : List Nat :=
  if d.isChild n then
    match d.parent? n with
    | some p => ((d.children p).filter fun m => m < n).reverse
    | none => []
  else []

/-- The later siblings of the node and of its ancestors with all below them, the nearest first. -/
def following (d : Document) (n : Nat) : List Nat :=
  (n :: d.ancestors n).flatMap fun a =>
    (d.followingSiblings a).flatMap fun m => m :: d.descendants m

/-- The earlier siblings of the node and of its ancestors with all below them, the nearest first. -/
def preceding (d : Document) (n : Nat) : List Nat :=
  (n :: d.ancestors n).flatMap fun a =>
    (d.precedingSiblings a).flatMap fun m => (m :: d.descendants m).reverse

def ownText (d : Document) (n : Nat) : String :=
  match d.content n with
  | .text s => s
  | _ => ""

/-- The text of a node: for the root and an element, all text below it. -/
def stringValue (d : Document) (n : Nat) : String :=
  match d.content n with
  | .root | .element _ => String.join ((d.outline.below n).map d.ownText)
  | .attr _ value => value
  | .binding _ space => space
  | .text s => s
  | .comment s => s
  | .instruction _ content => content

/-- The name of a node without its prefix; nothing for a node without a name. -/
def localName (d : Document) (n : Nat) : String :=
  match d.content n with
  | .element name | .attr name _ => name.base
  | .instruction target _ => target
  | .binding front _ => front
  | .root | .text _ | .comment _ => ""

/-- The name of a node as it is shown; nothing for a node without a name. -/
def shownName (d : Document) (n : Nat) : String :=
  match d.content n with
  | .element name | .attr name _ => name.shown
  | .instruction target _ => target
  | .binding front _ => front
  | .root | .text _ | .comment _ => ""

def spaceName (d : Document) (n : Nat) : String :=
  match d.content n with
  | .element name | .attr name _ => name.space.getD ""
  | _ => ""

def kindName (d : Document) (n : Nat) : String :=
  match d.content n with
  | .root => "root"
  | .element _ => "element"
  | .attr .. => "attribute"
  | .text _ => "text"
  | .comment _ => "comment"
  | .binding .. => "namespace"
  | .instruction .. => "processing-instruction"

/-- The element that owns an attribute; any other node is its own. -/
def owner (d : Document) (n : Nat) : Nat :=
  match d.content n with
  | .attr .. => (d.parent? n).getD n
  | _ => n

def inOrder (nodes : List Nat) : List Nat :=
  (nodes.mergeSort (· ≤ ·)).eraseReps

end Document
end Xml
end Gleaner
