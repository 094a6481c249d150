import Gleaner.XPath.Functions
import Gleaner.XPath.Grammar
/-!
# Evaluation of paths

* `Axis.from` lists the nodes in a direction, the nearest first;
* `NodeTest.admits` decides a test of nodes;
* `XPath.eval` evaluates an expression at a place;
* `Selection` is an expression with its text, and `Selection.nodes` are the nodes that it selects
  from the root of a document.
-/

namespace Gleaner
namespace XPath

/-- The nodes in a direction from a node, in the order in which one meets them going away. -/
def Axis.reached (d : Xml.Document) (n : Nat) : Axis → List Nat
  | .ancestor => d.ancestors n
  | .ancestorOrSelf => n :: d.ancestors n
  | .attributes => d.attributes n
  | .child => d.children n
  | .descendant => d.descendants n
  | .descendantOrSelf => n :: d.descendants n
  | .following => d.following n
  | .followingSibling => d.followingSiblings n
  | .bindings => d.bindings n
  | .parent => (d.parent? n).toList
  | .preceding => d.preceding n
  | .precedingSibling => d.precedingSiblings n
  | .self => [n]

/-- The name that a test of names looks at: that of the kind of node which the axis is for. -/
def testedName? (d : Xml.Document) (axis : Axis) (n : Nat) : Option (Option String × String) :=
  match axis, d.content n with
  | .attributes, .attr name _ => some (name.space, name.base)
  | .bindings, .binding front _ => some (none, front)
  | .attributes, _ | .bindings, _ => none
  | _, .element name => some (name.space, name.base)
  | _, _ => none

/-- Whether a node passes a test; no prefix is known outside of a document. -/
def NodeTest.admits (d : Xml.Document) (axis : Axis) (n : Nat) : NodeTest → Except Fault Bool
  | .anyName none => .ok (testedName? d axis n).isSome
  | .anyName (some front) =>
    if (testedName? d axis n).isSome then .error (.unknownPrefix front) else .ok false
  | .name ⟨none, base⟩ => .ok (testedName? d axis n == some (none, base))
  | .name ⟨some front, _⟩ =>
    if (testedName? d axis n).isSome then .error (.unknownPrefix front) else .ok false
  | .node => .ok true
  | .text => .ok (match d.content n with | .text _ => true | _ => false)
  | .comment => .ok (match d.content n with | .comment _ => true | _ => false)
  | .instruction target =>
    match d.content n with
    | .instruction t _ => .ok (target.isNone || target == some t)
    | _ => .ok false

def Value.asNodes : Value → Except Fault (List Nat)
  | .nodes ns => .ok ns
  | _ => .error .notNodes

/-- Whether a predicate with this value holds at a position: a number has to be the position. -/
def Value.holdsAt (position : Nat) : Value → Bool
  | .number (.finite x) => x.trunc.toNat == position
  | .number _ => false
  | v => v.truth

/-- The elements that satisfy a condition which may fail, in their order. -/
def keepIf {α ε : Type} (p : α → Except ε Bool) : List α → Except ε (List α)
  | [] => .ok []
  | a :: rest => do
    let keep ← p a
    let more ← keepIf p rest
    .ok (if keep then a :: more else more)

mutual

def eval (at_ : Context) : XPath → Except Fault Value
  | .here => .ok (.nodes [at_.node])
  | .root => .ok (.nodes [Xml.Document.root])
  | .literal s => .ok (.text s)
  | .number x => .ok (.number x)
  | .variable name => .error (.unknownVariable name.base)
  | .call name arguments =>
    match Function.find? name with
    | none => .error (.unknownFunction name.base)
    | some (f, least, most) => do
      let values ← evalAll at_ arguments
      Function.checkCount least most values.length
      f.apply at_ values
  | .negated inner => do
    let v ← eval at_ inner
    .ok (.number (v.asNumber at_.document).neg)
  | .binary op left right => do
    let l ← eval at_ left
    match op with
    | .and => if l.truth then (eval at_ right).map fun r => .bool r.truth else .ok (.bool false)
    | .or => if l.truth then .ok (.bool true) else (eval at_ right).map fun r => .bool r.truth
    | .union => do
      let r ← eval at_ right
      let ns ← l.asNodes
      let ms ← r.asNodes
      .ok (.nodes (Xml.Document.inOrder (ns ++ ms)))
    | .eq | .ne => do
      let r ← eval at_ right
      .ok (.bool (l.equal at_.document r == (op == .eq)))
    | .lt | .le | .gt | .ge => do
      let r ← eval at_ right
      .ok (.bool (Value.related op (l.asNumber at_.document) (r.asNumber at_.document)))
    | .add | .sub | .mul | .div | .mod => do
      let r ← eval at_ right
      .ok (.number (Value.calculated op (l.asNumber at_.document) (r.asNumber at_.document)))
  | .filtered nodes predicate => do
    let v ← eval at_ nodes
    let ns ← v.asNodes
    let kept ← ns.zipIdx.filterMapM fun (n, i) => do
      let value ← eval { at_ with node := n, position := i + 1, size := ns.length } predicate
      .ok (if value.holdsAt (i + 1) then some n else none)
    .ok (.nodes kept)
  | .step start axis test predicates => do
    let v ← eval at_ start
    let starts ← v.asNodes
    let found ← starts.mapM fun n => do
      let admitted ← keepIf (test.admits at_.document axis) (axis.reached at_.document n)
      narrow at_ admitted predicates
    .ok (.nodes (Xml.Document.inOrder found.flatten))

def evalAll (at_ : Context) : List XPath → Except Fault (List Value)
  | [] => .ok []
  | e :: rest => do
    let v ← eval at_ e
    let vs ← evalAll at_ rest
    .ok (v :: vs)

/-- The nodes that fulfil all predicates, each at its position among those that are left. -/
def narrow (at_ : Context) (ns : List Nat) : List XPath → Except Fault (List Nat)
  | [] => .ok ns
  | predicate :: rest => do
    let kept ← ns.zipIdx.filterMapM fun (n, i) => do
      let value ← eval { at_ with node := n, position := i + 1, size := ns.length } predicate
      .ok (if value.holdsAt (i + 1) then some n else none)
    narrow at_ kept rest

end

/-- An expression together with its text. -/
structure Selection where
  -- The text of the expression, which errors repeat.
  source : String
  path : XPath
  deriving Repr

namespace Selection

def read (source : String) : Except Error Selection :=
  (XPath.read source).map fun path => ⟨source, path⟩

/-- The value at a node, which is visited alone. -/
def value (s : Selection) (d : Xml.Document) (n : Nat) : Except Error Value :=
  (eval ⟨d, n, 1, 1⟩ s.path).mapError (.failed s.source)

/-- The nodes selected from the root; in place of an attribute stands its element. -/
def nodes (s : Selection) (d : Xml.Document) : Except Error (List Nat) := do
  match ← s.value d Xml.Document.root with
  | .nodes ns => .ok (ns.map d.owner)
  | _ => .error (.notNodes s.source)

end Selection

end XPath
end Gleaner
