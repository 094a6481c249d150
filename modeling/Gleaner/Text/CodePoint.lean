/-!
# Code points

Characters by their numbers, and the digits in which such numbers are written.

* `charOf?` is the character of a code point, `inRanges` asks for ranges of code points;
* `digitValue?` reads a digit, `hexDigit` writes one, and `digitValue?_hexDigit` says that the two
  agree;
* `numeral?` reads the digits of a number in a base.
-/

namespace Gleaner
namespace Text

def charOf? (n : Nat) : Option Char :=
  if n.isValidChar then some (Char.ofNat n) else none

def inRanges (ranges : List (Nat × Nat)) (n : Nat) : Bool :=
  ranges.any fun (first, last) => first ≤ n && n ≤ last

/-- The value of a digit in a base up to sixteen; the letters count in either case. -/
def digitValue? (c : Char) : Option Nat :=
  if '0' ≤ c ∧ c ≤ '9' then some (c.toNat - '0'.toNat)
  else if 'a' ≤ c ∧ c ≤ 'f' then some (c.toNat - 'a'.toNat + 10)
  else if 'A' ≤ c ∧ c ≤ 'F' then some (c.toNat - 'A'.toNat + 10)
  else none

def isHexDigit (c : Char) : Bool :=
  (digitValue? c).isSome

/-- The last hexadecimal digit of a number, in lower case. -/
def hexDigit (n : Nat) : Char :=
  Nat.digitChar (n % 16)

/-- The number that digits write in a base, if all of them are digits of it. -/
def numeral? (base : Nat) (digits : List Char) : Option Nat :=
  digits.foldlM
    (fun n c => do
      let d ← digitValue? c
      if d < base then some (base * n + d) else none)
    0

/-- A digit is read back as the value it was written for. -/
theorem digitValue?_hexDigit (n : Nat) : digitValue? (hexDigit n) = some (n % 16) := by
  have digit : ∀ d < 16, digitValue? (Nat.digitChar d) = some d := by decide
  exact digit (n % 16) (Nat.mod_lt n (by decide))

end Text
end Gleaner
