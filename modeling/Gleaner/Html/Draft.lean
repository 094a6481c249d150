import Gleaner.Html.Tree
/-!
# Drafts of documents

While a document is read its tree can change at any place, so it is kept as a draft: numbered items
that know their parent and their children. The number of an item is its rank of creation.

* `Draft.make` creates an item, `attach` and `detach` put it into the tree and take it out;
* `Draft.addText` adds text, to the text before the place if there is some;
* `Draft.toTree` is the tree that has been drafted.
-/

namespace Gleaner
namespace Html

inductive Draft.Content where
  | document
  | doctype (name : String)
  | element (e : Element)
  | text (s : String)
  | comment (s : String)
  deriving Repr

structure Draft.Item where
  content : Draft.Content
  parent : Option Nat
  children : List Nat
  deriving Repr

structure Draft where
  -- The items by number; the document itself is the first.
  items : Array Draft.Item
  deriving Repr

/-- A place in a draft: at the end of an item, or before one of the children of an item. -/
inductive Draft.Place where
  | endOf (parent : Nat)
  | before (parent : Nat) (child : Nat)
  deriving Repr

namespace Draft

def empty : Draft :=
  ⟨#[⟨.document, none, []⟩]⟩

def root : Nat :=
  0

/-- Create an item; its number comes first. -/
def make (d : Draft) (content : Content) : Nat × Draft :=
  (d.items.size, ⟨d.items.push ⟨content, none, []⟩⟩)

def element? (d : Draft) (n : Nat) : Option Element :=
  match d.items[n]?.map Item.content with
  | some (.element e) => some e
  | _ => none

def parent? (d : Draft) (n : Nat) : Option Nat :=
  d.items[n]?.bind Item.parent

def children (d : Draft) (n : Nat) : List Nat :=
  (d.items[n]?.map Item.children).getD []

def update (d : Draft) (n : Nat) (change : Item → Item) : Draft :=
  ⟨d.items.modify n change⟩

def detach (d : Draft) (n : Nat) : Draft :=
  match d.parent? n with
  | none => d
  | some p =>
    (d.update p fun item => { item with children := item.children.filter (· != n) }).update n
      fun item => { item with parent := none }

/-- The list with `new` before the first occurrence of `mark`, or at the end. -/
def insertedBefore (new mark : Nat) : List Nat → List Nat
  | [] => [new]
  | n :: rest => if n = mark then new :: n :: rest else n :: insertedBefore new mark rest

def Place.parent : Place → Nat
  | .endOf p => p
  | .before p _ => p

def attach (d : Draft) (place : Place) (n : Nat) : Draft :=
  let insert (children : List Nat) : List Nat :=
    match place with
    | .endOf _ => children ++ [n]
    | .before _ mark => insertedBefore n mark children
  let loose := d.detach n
  (loose.update place.parent fun item => { item with children := insert item.children }).update n
    fun item => { item with parent := some place.parent }

def itemBefore? (d : Draft) : Place → Option Nat
  | .endOf p => (d.children p).getLast?
  | .before p mark => ((d.children p).takeWhile (· != mark)).getLast?

/-- Add text at a place; it continues the text right before it. -/
def addText (d : Draft) (place : Place) (s : String) : Draft :=
  let previous : Option (Nat × Content) :=
    (d.itemBefore? place).bind fun n => d.items[n]?.map fun item => (n, item.content)
  match previous with
  | some (n, .text t) => d.update n fun item => { item with content := .text (t ++ s) }
  | _ =>
    let (n, made) := d.make (.text s)
    made.attach place n

def moveChildren (d : Draft) (source target : Nat) : Draft :=
  (d.children source).foldl (fun d n => d.attach (.endOf target) n) d

def addAttributes (d : Draft) (n : Nat) (attributes : List Attribute) : Draft :=
  d.update n fun item =>
    match item.content with
    | .element e =>
      let new := attributes.filter fun a => !e.attributes.any fun b => b.name == a.name
      { item with content := .element { e with attributes := e.attributes ++ new } }
    | _ => item

/-- The tree below an item, to a depth of `fuel`. -/
def treeAt (d : Draft) : (fuel : Nat) → Nat → Node
  | 0, _ => .comment ""
  | fuel + 1, n =>
    let below := (d.children n).map (d.treeAt fuel)
    match d.items[n]?.map Item.content with
    | some .document | none => .document below
    | some (.doctype name) => .doctype name
    | some (.element e) => .element e n below
    | some (.text s) => .text s
    | some (.comment s) => .comment s

/-- The tree that has been drafted; no path in it is longer than the number of items. -/
def toTree (d : Draft) : Node :=
  d.treeAt (d.items.size + 1) root

end Draft

end Html
end Gleaner
