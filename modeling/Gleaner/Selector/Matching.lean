import Gleaner.Html.Document
import Gleaner.Selector.Syntax
/-!
# Matching of selectors

* `AttributeTest.holds`, `Position.admits` decide the simple conditions;
* `Selector.holds` decides a selector for an element;
* `Selector.all` lists the elements of a document that match, `Selector.inside` those inside of an
  element.
-/

namespace Gleaner
namespace Selector

/-- Whether a value compares as it should with the one that is given. -/
def Comparison.holds (c : Comparison) (given value : List Char) : Bool :=
  match c with
  | .equal => value == given
  | .word =>
    let parts := value.splitBy fun a b => Html.isSpace a == Html.isSpace b
    !given.isEmpty && parts.contains given
  | .dash =>
    match Text.dropPrefix? given value with
    | some [] | some ('-' :: _) => true
    | _ => false
  | .beginning => !given.isEmpty && (Text.dropPrefix? given value).isSome
  | .ending => !given.isEmpty && (Text.dropSuffix? given value).isSome
  | .part => !given.isEmpty && Text.occursIn given value

def AttributeTest.holds (t : AttributeTest) (e : Html.Element) : Bool :=
  let isHypertext := e.vocabulary == .html
  let lowered := Text.asciiLower t.name
  let name := if isHypertext then lowered else t.name
  e.attributes.any fun a =>
    (t.anyFamily || a.family == .plain) && a.name == name &&
      match t.value with
      | none => true
      | some (c, given, rule) =>
        let folds : Bool :=
          match rule with
          | .exact => false
          | .folded => true
          | .byName => isHypertext && !t.anyFamily && foldedAttributes.contains lowered
        let view (s : String) : List Char := (if folds then Text.asciiLower s else s).toList
        c.holds (view given) (view a.value)

/-- Whether a place, counted from one, is among those that are meant. -/
def Position.admits (p : Position) (place : Nat) : Bool :=
  let distance : Int := place - p.offset
  if p.step = 0 then distance == 0 else distance % p.step == 0 && 0 ≤ distance / p.step

def placeOf (d : Html.Document) (n : Nat) (ofType fromEnd : Bool) : Nat :=
  let others := if fromEnd then d.laterSiblings n else d.earlierSiblings n
  let key (m : Nat) : Option (Html.Vocabulary × String) :=
    (d.element? m).map fun e => (e.vocabulary, e.name)
  (if ofType then others.filter fun m => key m == key n else others).length + 1

def classesOf (e : Html.Element) : List String :=
  match e.attribute? "class" with
  | none => []
  | some value =>
    ((value.toList.splitBy fun a b => Text.isBlank a == Text.isBlank b).filter fun word =>
      !word.all Text.isBlank).map String.ofList

structure View where
  document : Html.Document
  -- The element from which the selection starts.
  scope : Option Nat
  -- The element for which `has` is decided.
  anchor : Option Nat

/-- The elements in a relation to an element, the nearest first. -/
def Combinator.others (c : Combinator) (d : Html.Document) (n : Nat) : List Nat :=
  match c with
  | .descendant => d.ancestors n
  | .child => (d.parent? n).toList
  | .next => (d.earlierSiblings n).take 1
  | .later => d.earlierSiblings n

mutual

def holds (v : View) (n : Nat) : Selector → Bool
  | .any => true
  | .never => false
  | .named name =>
    (v.document.element? n).any fun e =>
      e.name == if e.vocabulary = .html then Text.asciiLower name else name
  | .className name => (v.document.element? n).any fun e => (classesOf e).contains name
  | .identifier name => (v.document.element? n).any fun e => e.attribute? "id" == some name
  | .attributed test => (v.document.element? n).any test.holds
  | .position p => p.admits (placeOf v.document n p.ofType p.fromEnd)
  | .outermost => v.document.isOutermost n
  | .hollow => v.document.isHollow n
  | .scope => v.scope == some n || (v.scope.isNone && v.document.isOutermost n)
  | .anchor => v.anchor == some n
  | .both a b => b.holds v n && a.holds v n
  | .related c other => (c.others v.document n).any fun m => other.holds v m
  | .anyOf choices => holdsAny v n choices
  | .not s => !s.holds v n
  | .has s =>
    (v.document.elementsAfter n).any fun m => s.holds { v with anchor := some n } m

def holdsAny (v : View) (n : Nat) : List Selector → Bool
  | [] => false
  | s :: rest => s.holds v n || holdsAny v n rest

end

/-- The elements of a document that satisfy a selector, in the order of their creation. -/
def all (s : Selector) (d : Html.Document) : List Nat :=
  d.elementsByRank.filter fun n => s.holds ⟨d, none, none⟩ n

/-- The elements inside of an element that satisfy a selector, in document order. -/
def inside (s : Selector) (d : Html.Document) (n : Nat) : List Nat :=
  (d.elementsBelow n).filter fun m => s.holds ⟨d, some n, none⟩ m

end Selector
end Gleaner
