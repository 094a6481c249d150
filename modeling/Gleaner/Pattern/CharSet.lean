import Gleaner.Pattern.Properties
/-!
# Sets of characters

* `CharSet` describes a set of characters, `CharSet.mem` decides membership;
* `caseVariants` are the characters that differ from a character only in case.
-/

namespace Gleaner

inductive CharSet where
  | range (first last : Nat)
  | property (p : Text.Property)
  -- The characters that are in the set in some case.
  | anyCase (s : CharSet)
  | complement (s : CharSet)
  | union (s t : CharSet)
  | inter (s t : CharSet)
  | minus (s t : CharSet)
  -- The characters in exactly one of two sets.
  | oneOf (s t : CharSet)
  deriving Repr, Inhabited

namespace CharSet

def mem : CharSet → Char → Bool
  | .range first last, c => first ≤ c.toNat && c.toNat ≤ last
  | .property p, c => p.holds c
  | .anyCase s, c => mem s c || (Text.caseVariants c).any (mem s)
  | .complement s, c => !mem s c
  | .union s t, c => mem s c || mem t c
  | .inter s t, c => mem s c && mem t c
  | .minus s t, c => mem s c && !mem t c
  | .oneOf s t, c => mem s c != mem t c

def single (c : Char) : CharSet :=
  .range c.toNat c.toNat

def none : CharSet :=
  .range 1 0

def all : CharSet :=
  .range 0 0x10FFFF

def unionAll (sets : List CharSet) : CharSet :=
  match sets with
  | [] => none
  | s :: rest => rest.foldl .union s

def ofRanges (ranges : List (Char × Char)) : CharSet :=
  unionAll (ranges.map fun (a, b) => .range a.toNat b.toNat)

def asciiDigit : CharSet :=
  ofRanges [('0', '9')]

def asciiWord : CharSet :=
  ofRanges [('0', '9'), ('A', 'Z'), ('_', '_'), ('a', 'z')]

def asciiSpace : CharSet :=
  ofRanges [('\x09', '\x0d'), (' ', ' ')]

def word : CharSet :=
  .property .word

end CharSet
end Gleaner
