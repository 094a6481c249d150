import Gleaner.Text.Cut
import Gleaner.XPath.Value
/-!
# Functions of paths

* `Context` is where an expression is evaluated: a document, a node, its position and their number;
* `Function` lists the functions, with `Function.words` and the bounds of their argument counts;
* `Function.apply` computes one.
-/

namespace Gleaner
namespace XPath

structure Context where
  document : Xml.Document
  node : Nat
  -- The position of the node among those that are visited, from one.
  position : Nat
  -- How many nodes are visited.
  size : Nat

inductive Function where
  | last | position | count | localName | namespaceUri | name
  | string | concat | startsWith | contains | substringBefore | substringAfter | substring
  | stringLength | normalizeSpace | translate
  | boolean | not | true | false
  | number | sum | floor | ceiling | round
  deriving DecidableEq, Repr

namespace Function

/-- The words for the functions, with the least and the greatest number of arguments. -/
def words : List (String × Function × Nat × Option Nat) :=
  [("last", .last, 0, some 0), ("position", .position, 0, some 0), ("count", .count, 1, some 1),
    ("local-name", .localName, 0, some 1), ("namespace-uri", .namespaceUri, 0, some 1),
    ("name", .name, 0, some 1), ("string", .string, 0, some 1), ("concat", .concat, 2, none),
    ("starts-with", .startsWith, 2, some 2), ("contains", .contains, 2, some 2),
    ("substring-before", .substringBefore, 2, some 2),
    ("substring-after", .substringAfter, 2, some 2), ("substring", .substring, 2, some 3),
    ("string-length", .stringLength, 0, some 1), ("normalize-space", .normalizeSpace, 0, some 1),
    ("translate", .translate, 3, some 3), ("boolean", .boolean, 1, some 1),
    ("not", .not, 1, some 1), ("true", .true, 0, some 0), ("false", .false, 0, some 0),
    ("number", .number, 0, some 1), ("sum", .sum, 1, some 1), ("floor", .floor, 1, some 1),
    ("ceiling", .ceiling, 1, some 1), ("round", .round, 1, some 1)]

def find? (name : Xml.Spelled) : Option (Function × Nat × Option Nat) :=
  if name.front.isSome then none else words.lookup name.base

def checkCount (least : Nat) (most : Option Nat) (count : Nat) : Except Fault Unit :=
  if count < least then .error (.notEnoughArguments least count)
  else
    match most with
    | some n => if n < count then .error (.tooManyArguments n count) else .ok ()
    | none => .ok ()

def nodesOf : Value → Except Fault (List Nat)
  | .nodes ns => .ok ns
  | _ => .error .argumentNotNodes

/-- What precedes the first occurrence of `part` in `s`; nothing when there is none. -/
def before (s part : String) : String :=
  ((Text.cutAt? part.toList s.toList).map fun (front, _) => String.ofList front).getD ""

/-- What follows the first occurrence of `part` in `s`; nothing when there is none. -/
def after (s part : String) : String :=
  ((Text.cutAt? part.toList s.toList).map fun (_, back) => String.ofList back).getD ""

/-- The characters at the positions from `first`, counted from one, of which there are `count`. -/
def cutOut (s : String) (first count : Binary64) : String :=
  let stop := first.add count
  let chosen := s.toList.zipIdx.filter fun (_, i) =>
    let p := Binary64.ofInt (i + 1)
    !p.isLess first && (p.compare? first).isSome && p.isLess stop
  String.ofList (chosen.map (·.1))

def withSingleSpaces (s : String) : String :=
  let parts := (Text.pieces [' '] (s.toList.map fun c => if Xml.isSpace c then ' ' else c))
  Text.joinWith " " ((parts.filter fun p => !p.isEmpty).map String.ofList)

/-- Each character of `origin` replaced by its counterpart in `target`, or removed without one. -/
def translated (s origin target : String) : String :=
  String.ofList <| s.toList.filterMap fun c =>
    match origin.toList.findIdx? (· == c) with
    | some i => target.toList[i]?
    | none => some c

/-- The value of a function at a place, for arguments of the right number. -/
def apply (f : Function) (at_ : Context) (arguments : List Value) : Except Fault Value :=
  let d := at_.document
  let here := Value.nodes [at_.node]
  let first := arguments.head?.getD here
  let text (i : Nat) : String := (arguments[i]?.getD here).asText d
  let number (i : Nat) : Binary64 := (arguments[i]?.getD here).asNumber d
  let ofFirstNode (read : Nat → String) : Except Fault Value :=
    (nodesOf first).map fun ns => .text ((ns.head?.map read).getD "")
  match f with
  | .last => .ok (.number (.ofInt at_.size))
  | .position => .ok (.number (.ofInt at_.position))
  | .count => (nodesOf first).map fun ns => .number (.ofInt ns.length)
  | .localName => ofFirstNode d.localName
  | .namespaceUri => ofFirstNode d.spaceName
  | .name => ofFirstNode d.shownName
  | .string => .ok (.text (text 0))
  | .concat => .ok (.text (String.join (arguments.map (Value.asText d))))
  | .startsWith => .ok (.bool (Text.dropPrefix? (text 1).toList (text 0).toList).isSome)
  | .contains => .ok (.bool (Text.contains (text 0) (text 1)))
  | .substringBefore => .ok (.text (before (text 0) (text 1)))
  | .substringAfter => .ok (.text (after (text 0) (text 1)))
  | .substring =>
    let count := if arguments.length < 3 then .infinite Bool.false else roundHalfUp (number 2)
    .ok (.text (cutOut (text 0) (roundHalfUp (number 1)) count))
  | .stringLength => .ok (.number (.ofInt (text 0).length))
  | .normalizeSpace => .ok (.text (withSingleSpaces (text 0)))
  | .translate => .ok (.text (translated (text 0) (text 1) (text 2)))
  | .boolean => .ok (.bool first.truth)
  | .not => .ok (.bool !first.truth)
  | .true => .ok (.bool Bool.true)
  | .false => .ok (.bool Bool.false)
  | .number => .ok (.number (number 0))
  | .sum => (nodesOf first).map fun ns =>
    .number (ns.foldl (fun total n => total.add (numberOfText (d.stringValue n))) (.ofInt 0))
  | .floor => .ok (.number (number 0).floor)
  | .ceiling => .ok (.number (number 0).ceil)
  | .round => .ok (.number (roundHalfUp (number 0)))

end Function

end XPath
end Gleaner
