import Gleaner.Pattern.CharSet
/-!
# Patterns

A pattern is a regular expression over characters. Its meaning on a text is a function on sets of
positions: from the positions where a match may begin to those where it may end. A set of positions
is a natural number, whose bit `i` says whether position `i` belongs to it.

* `Pattern` is the syntax, `Assertion` the conditions on a position;
* `Pattern.ends` is the meaning;
* `Pattern.occursIn` says whether a pattern matches some part of a text.
-/

namespace Gleaner

inductive Assertion where
  | textStart
  | textEnd
  | lineStart
  | lineEnd
  -- Like the two before, with a carriage return as a line end too.
  | returnLineStart
  | returnLineEnd
  | wordBoundary (unicode : Bool)
  | notWordBoundary (unicode : Bool)
  | wordStart (unicode : Bool)
  | wordEnd (unicode : Bool)
  | wordStartHalf (unicode : Bool)
  | wordEndHalf (unicode : Bool)
  deriving DecidableEq, Repr

inductive Pattern where
  | empty
  | one (set : CharSet)
  -- The empty text at a position that meets a condition.
  | assertion (a : Assertion)
  | seq (first second : Pattern)
  | either (first second : Pattern)
  -- A number of repetitions, from `least` up to `most`; without `most` there is no limit.
  | times (inner : Pattern) (least : Nat) (most : Option Nat)
  deriving Repr, Inhabited

namespace Pattern

def isWord (unicode : Bool) (c : Option Char) : Bool :=
  match c with
  | none => false
  | some c => (if unicode then CharSet.word else CharSet.asciiWord).mem c

/-- Whether a condition holds between the characters before and after a position. -/
def Assertion.holds (a : Assertion) (before after : Option Char) : Bool :=
  match a with
  | .textStart => before.isNone
  | .textEnd => after.isNone
  | .lineStart => before.isNone || before == some '\n'
  | .lineEnd => after.isNone || after == some '\n'
  | .returnLineStart =>
    before.isNone || before == some '\n' || (before == some '\r' && after != some '\n')
  | .returnLineEnd =>
    after.isNone || after == some '\r' || (after == some '\n' && before != some '\r')
  | .wordBoundary u => isWord u before != isWord u after
  | .notWordBoundary u => isWord u before == isWord u after
  | .wordStart u => !isWord u before && isWord u after
  | .wordEnd u => isWord u before && !isWord u after
  | .wordStartHalf u => !isWord u before
  | .wordEndHalf u => !isWord u after

/-- The positions before the characters of a text that belong to a set. -/
def positionsOf (set : CharSet) : List Char → Nat
  | [] => 0
  | c :: rest => 2 * positionsOf set rest + (set.mem c).toNat

/-- The positions of a text that meet a condition; `before` is the character before the text. -/
def positionsMeeting (a : Assertion) : (before : Option Char) → List Char → Nat
  | before, [] => (Assertion.holds a before none).toNat
  | before, c :: rest =>
    2 * positionsMeeting a (some c) rest + (Assertion.holds a before (some c)).toNat

/-- Apply a function `n` times, collecting all results on the way. -/
def collect (f : Nat → Nat) : (n : Nat) → Nat → Nat
  | 0, s => s
  | n + 1, s => s ||| collect f n (f s)

/-- Apply a function `n` times. -/
def iterate (f : Nat → Nat) : (n : Nat) → Nat → Nat
  | 0, s => s
  | n + 1, s => iterate f n (f s)

/-- The positions where a match ends that begins at one of the given positions. -/
def ends (cs : List Char) : Pattern → Nat → Nat
  | .empty, s => s
  | .one set, s => (s &&& positionsOf set cs) <<< 1
  | .assertion a, s => s &&& positionsMeeting a none cs
  | .seq p q, s => ends cs q (ends cs p s)
  | .either p q, s => ends cs p s ||| ends cs q s
  | .times p least most, s =>
    let start := iterate (ends cs p) least s
    let more :=
      match most with
      | none => cs.length + 1
      | some most => min (most - least) (cs.length + 1)
    collect (ends cs p) more start

def occursIn (p : Pattern) (s : String) : Bool :=
  let cs := s.toList
  ends cs p (2 ^ (cs.length + 1) - 1) != 0

/-- How many characters and conditions a pattern holds when its repetitions are written out. -/
def size : Pattern → Nat
  | .empty => 0
  | .one _ => 1
  | .assertion _ => 1
  | .seq p q => size p + size q
  | .either p q => size p + size q + 1
  | .times p least most => size p * max 1 (max least (most.getD 0)) + 1

end Pattern
end Gleaner
