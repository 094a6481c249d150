import Gleaner.Xml.Token
/-!
# Trees of markup

* `Node` is a node of a document: an element with its attributes and children, or a leaf;
* `Scope` holds the prefixes in force at an element, the innermost first;
* `resolve?` replaces the prefix of a spelled name by its namespace;
* `Tree.read?` builds the nodes at the top of a document, exactly one of which is an element.

Declarations of prefixes are no attributes of the tree.
-/

namespace Gleaner
namespace Xml

/-- The prefixes in force, each with its namespace; no prefix stands for the default namespace. -/
abbrev Scope :=
  List (Option String × String)

/-- The namespace that is always bound, to the prefix that is always known. -/
def reservedSpace : String :=
  "/".intercalate ["http:", "", "www.w3.org", "XML", "1998", "namespace"]

def Scope.outermost : Scope :=
  [(some "xml", reservedSpace)]

/-- The namespace of a prefix, as the innermost declaration gives it. -/
def Scope.find? (scope : Scope) (front : Option String) : Option String :=
  (List.find? (fun b => b.1 == front) scope).map (·.2)

def Scope.frontOf? (scope : Scope) (space : String) : Option String :=
  scope.findSome? fun (front, bound) =>
    match front with
    | some p => if bound = space ∧ scope.find? (some p) = some space then some p else none
    | none => none

/-- The prefixes in force without the default namespace, the innermost declaration of each. -/
def Scope.fronts : Scope → List (String × String)
  | [] => []
  | (some p, space) :: rest => (p, space) :: (Scope.fronts rest).filter fun b => b.1 != p
  | (none, _) :: rest => Scope.fronts rest

/-- An attribute as written that declares a prefix or the default namespace. -/
def declared? (written : Spelled × String) : Option (Option String × String) :=
  match written.1 with
  | ⟨none, "xmlns"⟩ => some (none, written.2)
  | ⟨some "xmlns", p⟩ => some (some p, written.2)
  | _ => none

/-- The namespace of an element's spelled name; an empty default namespace is none. -/
def elementName? (scope : Scope) (name : Spelled) : Option Name :=
  match name.front with
  | some p => (scope.find? (some p)).map fun space => ⟨some space, name.base, some p⟩
  | none =>
    match scope.find? none with
    | none | some "" => some ⟨none, name.base, none⟩
    | some space => some ⟨some space, name.base, scope.frontOf? space⟩

/-- The namespace of an attribute's spelled name; without a prefix there is none. -/
def attributeName? (scope : Scope) (name : Spelled) : Option Name :=
  match name.front with
  | some p => (scope.find? (some p)).map fun space => ⟨some space, name.base, some p⟩
  | none => some ⟨none, name.base, none⟩

inductive Node where
  | element (name : Name) (scope : Scope) (attributes : List (Name × String))
      (children : List Node)
  | text (s : String)
  | comment (s : String)
  | instruction (target : String) (content : String)

/-- An element whose closing tag has not been read, with the children read so far, last first. -/
structure Opened where
  -- The name as it is spelled, which the closing tag has to repeat.
  spelled : Spelled
  name : Name
  -- The prefixes in force inside.
  scope : Scope
  attributes : List (Name × String)
  -- The children, in reverse.
  children : List Node

def Opened.close (o : Opened) : Node :=
  .element o.name o.scope o.attributes o.children.reverse

/--
The element that a tag opens. No attribute may be written twice, every prefix has to be declared,
and no prefix may be declared for the empty namespace.
-/
def Opened.ofTag? (outer : Scope) (spelled : Spelled) (attributes : List (Spelled × String)) :
    Option Opened := do
  guard (attributes.map (·.1)).Nodup
  let declarations := attributes.filterMap declared?
  guard (declarations.all fun (front, space) => front.isNone || space != "")
  let scope := declarations ++ outer
  let name ← elementName? scope spelled
  let own := attributes.filter fun a => (declared? a).isNone
  let named ← own.mapM fun (n, value) => (attributeName? scope n).map (·, value)
  some ⟨spelled, name, scope, named, []⟩

structure Assembly where
  -- The nodes at the top of the document, in reverse.
  top : List Node
  -- The elements that are open, the innermost first.
  opened : List Opened
  hasElement : Bool
  hasDoctype : Bool

namespace Assembly

def scope (a : Assembly) : Scope :=
  match a.opened with
  | [] => .outermost
  | o :: _ => o.scope

def add (a : Assembly) (node : Node) : Assembly :=
  match a.opened with
  | [] => { a with top := node :: a.top }
  | o :: outer => { a with opened := { o with children := node :: o.children } :: outer }

/--
Put one more piece in its place. Outside of the element at the top only comments, instructions,
white space and, before the element, a document type may stand.
-/
def step? (a : Assembly) : Token → Option Assembly
  | .start name attributes closed => do
    guard !(a.opened.isEmpty && a.hasElement)
    let o ← Opened.ofTag? a.scope name attributes
    let entered := { a with hasElement := true }
    if closed then some (entered.add o.close)
    else some { entered with opened := o :: entered.opened }
  | .stop name =>
    match a.opened with
    | [] => none
    | o :: outer =>
      if o.spelled = name then some ({ a with opened := outer }.add o.close) else none
  | .text s =>
    if a.opened.isEmpty then if s.toList.all isSpace then some a else none
    else some (a.add (.text s))
  | .exact s => if a.opened.isEmpty then none else some (a.add (.text s))
  | .comment s => some (a.add (.comment s))
  | .instruction target content => some (a.add (.instruction target content))
  | .doctype =>
    if a.opened.isEmpty && !a.hasElement && !a.hasDoctype then some { a with hasDoctype := true }
    else none

end Assembly

def Tree.ofTokens? (tokens : List Token) : Option (List Node) := do
  let a ← tokens.foldlM Assembly.step? ⟨[], [], false, false⟩
  guard (a.opened.isEmpty && a.hasElement)
  some a.top.reverse

def Tree.read? (s : String) : Option (List Node) :=
  tokens? s >>= Tree.ofTokens?

end Xml
end Gleaner
