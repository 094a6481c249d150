import Gleaner.Html.Rules
import Gleaner.Outline
/-!
# Documents of hypertext

A document numbers its nodes in document order, and knows each node with all below it.

* `Document.read` reads any text;
* `element?`, `parent?`, `earlierSiblings`, `laterSiblings`, `elementsBelow` are what selectors ask
  for;
* `elementsByRank` lists all elements in the order of their creation.
-/

namespace Gleaner
namespace Html

/-- A document: its nodes by number, each with all below it. -/
structure Document where
  outline : Outline Node

namespace Document

mutual

/-- Number a node and all below it, inside the node `holder`. -/
def number (holder : Nat) (done : Outline Node) : Node → Outline Node
  | .element e made children =>
    (numberAll done.size (done.leaf holder (.element e made children)) children).close done.size
  | .document children =>
    (numberAll done.size (done.leaf holder (.document children)) children).close done.size
  | .doctype name => done.leaf holder (.doctype name)
  | .text s => done.leaf holder (.text s)
  | .comment s => done.leaf holder (.comment s)

def numberAll (holder : Nat) (done : Outline Node) : List Node → Outline Node
  | [] => done
  | node :: rest => numberAll holder (number holder done node) rest

end

def ofTree (tree : Node) : Document :=
  ⟨number 0 .empty tree⟩

def read (s : String) : Document :=
  ofTree (Node.read s)

def node (d : Document) (n : Nat) : Node :=
  (d.outline.content? n).getD (.document [])

def element? (d : Document) (n : Nat) : Option Element :=
  (d.node n).element?

def isElement (d : Document) (n : Nat) : Bool :=
  (d.element? n).isSome

def parent? (d : Document) (n : Nat) : Option Nat :=
  (d.outline.parent? n).filter d.isElement

def ancestors (d : Document) (n : Nat) : List Nat :=
  (d.outline.ancestors n).filter d.isElement

def isOutermost (d : Document) (n : Nat) : Bool :=
  (d.parent? n).isNone

def siblings (d : Document) (n : Nat) : List Nat :=
  match d.outline.parent? n with
  | some p => (d.outline.held p).filter d.isElement
  | none => [n]

def earlierSiblings (d : Document) (n : Nat) : List Nat :=
  ((d.siblings n).filter (· < n)).reverse

def laterSiblings (d : Document) (n : Nat) : List Nat :=
  (d.siblings n).filter (n < ·)

def elementsBelow (d : Document) (n : Nat) : List Nat :=
  (d.outline.below n).filter d.isElement

def elementsAfter (d : Document) (n : Nat) : List Nat :=
  (List.range' (n + 1) (d.outline.size - (n + 1))).filter d.isElement

def rank (d : Document) (n : Nat) : Nat :=
  match d.node n with
  | .element _ made _ => made
  | _ => 0

def elementsByRank (d : Document) : List Nat :=
  ((List.range d.outline.size).filter d.isElement).mergeSort fun m n => d.rank m ≤ d.rank n

def isHollow (d : Document) (n : Nat) : Bool :=
  (d.node n).children.all fun child =>
    match child with
    | .element .. | .text _ => false
    | _ => true

end Document

end Html
end Gleaner
