/-!
# Binary floating-point numbers of 64 bits

Every finite number of the format is an integer multiple of `2 ^ -1074`, its *unit*. A number is
kept as a sign, a significand and an exponent counted in doublings of the unit, so each operation is
an exact computation on integers followed by one rounding to the nearest number, ties to the even
significand.

* `Binary64.Finite` is a finite number in its only canonical form, with both zeros;
* `Finite.scaled` is its value in units, the view through which order and arithmetic are defined;
* `Binary64.nearest` rounds a quotient of integers;
* `add`, `sub`, `mul`, `div`, `neg`, `compare` are the operations of the format.
-/

-- a power is the one that the core library computes, whatever algebra is in scope
attribute [instance (1100), default_instance 20000] instPowNat

namespace Gleaner

/-- The significand is short enough, the exponent in range, and the pair the shortest one. -/
def Binary64.Canonical (significand exponent : Nat) : Prop :=
  significand < 2 ^ 53 ∧ exponent ≤ 2045 ∧ (exponent = 0 ∨ 2 ^ 52 ≤ significand)

instance (m e : Nat) : Decidable (Binary64.Canonical m e) := by
  unfold Binary64.Canonical
  infer_instance

/-- A finite number: `significand * 2 ^ exponent` units, with a sign. -/
structure Binary64.Finite where
  negative : Bool
  -- The integer that is doubled `exponent` times.
  significand : Nat
  exponent : Nat
  -- Every finite number has one form.
  canonical : Binary64.Canonical significand exponent
  deriving DecidableEq, Repr

/-- A number of the format: finite, an infinity, or no number at all. -/
inductive Binary64 where
  | finite (x : Binary64.Finite)
  | infinite (negative : Bool)
  | nan
  deriving DecidableEq, Repr

namespace Binary64

def unitsPerOne : Nat :=
  2 ^ 1074

namespace Finite

def zero (negative : Bool) : Finite :=
  ⟨negative, 0, 0, by decide⟩

instance : Inhabited Finite :=
  ⟨zero false⟩

/-- The absolute value in units. -/
def magnitude (x : Finite) : Nat :=
  x.significand * 2 ^ x.exponent

/-- The value in units. -/
def scaled (x : Finite) : Int :=
  if x.negative then -(x.magnitude : Int) else x.magnitude

def isZero (x : Finite) : Bool :=
  x.significand == 0

def neg (x : Finite) : Finite :=
  { x with negative := !x.negative }

def abs (x : Finite) : Finite :=
  { x with negative := false }

/-- The order of the values; the two zeros are equal. -/
def compare (x y : Finite) : Ordering :=
  Ord.compare x.scaled y.scaled

def floor (x : Finite) : Int :=
  x.scaled / (unitsPerOne : Int)

def ceil (x : Finite) : Int :=
  -((-x.scaled) / (unitsPerOne : Int))

def trunc (x : Finite) : Int :=
  x.scaled.tdiv (unitsPerOne : Int)

def isIntegral (x : Finite) : Bool :=
  x.magnitude % unitsPerOne == 0

def largest (negative : Bool) : Finite :=
  ⟨negative, 2 ^ 53 - 1, 2045, by decide⟩

end Finite

/-! ## Rounding -/

/-- The integer nearest to `num / den`; a half goes to the even neighbour. -/
def roundedQuotient (num den : Nat) : Nat :=
  let q := num / den
  let r := num % den
  if 2 * r < den then q else if den < 2 * r then q + 1 else q + q % 2

/-- A signed significand and exponent as a number; what does not fit is an infinity. -/
def ofParts (negative : Bool) (significand exponent : Nat) : Binary64 :=
  if h : Canonical significand exponent then .finite ⟨negative, significand, exponent, h⟩
  else .infinite negative

/-- The number nearest to `num / den` units; a tie goes to the even significand. -/
def nearest (negative : Bool) (num den : Nat) : Binary64 :=
  let exponent := Nat.log2 (num / den) - 52
  let significand := roundedQuotient num (den * 2 ^ exponent)
  if significand = 2 ^ 53 then ofParts negative (2 ^ 52) (exponent + 1)
  else ofParts negative significand exponent

def ofInt (n : Int) : Binary64 :=
  nearest (n < 0) (n.natAbs * unitsPerOne) 1

/-- The number nearest to `digits * 10 ^ exponent`. -/
def ofDecimal (negative : Bool) (digits : Nat) (exponent : Int) : Binary64 :=
  let places := (Nat.toDigits 10 digits).length
  if digits = 0 then .finite (Finite.zero negative)
  else if exponent + places > 400 then .infinite negative
  else if exponent + places < -400 then .finite (Finite.zero negative)
  else if 0 ≤ exponent then nearest negative (digits * unitsPerOne * 10 ^ exponent.toNat) 1
  else nearest negative (digits * unitsPerOne) (10 ^ (-exponent).toNat)

/-! ## Operations -/

def finite? : Binary64 → Option Finite
  | .finite x => some x
  | _ => none

/-- The sign; it is false of what is no number. -/
def isNegative : Binary64 → Bool
  | .finite x => x.negative
  | .infinite negative => negative
  | .nan => false

def isZeroOrNan : Binary64 → Bool
  | .finite x => x.isZero
  | .infinite _ => false
  | .nan => true

def neg : Binary64 → Binary64
  | .finite x => .finite x.neg
  | .infinite negative => .infinite !negative
  | .nan => .nan

/-- The sum of two finite numbers. An exact zero is negative only if both terms are. -/
def Finite.add (x y : Finite) : Binary64 :=
  let sum := x.scaled + y.scaled
  if sum = 0 then .finite (Finite.zero (x.negative && y.negative))
  else nearest (sum < 0) sum.natAbs 1

def Finite.mul (x y : Finite) : Binary64 :=
  nearest (x.negative != y.negative) (x.magnitude * y.magnitude) unitsPerOne

/-- The quotient of two finite numbers; a zero divisor gives an infinity, or no number. -/
def Finite.div (x y : Finite) : Binary64 :=
  if y.isZero then
    if x.isZero then .nan else .infinite (x.negative != y.negative)
  else nearest (x.negative != y.negative) (x.magnitude * unitsPerOne) y.magnitude

/-- The remainder of a division truncated to an integer, with the sign of the dividend. -/
def Finite.rem (x y : Finite) : Binary64 :=
  if y.isZero then .nan
  else nearest x.negative (x.magnitude % y.magnitude) 1

def add : Binary64 → Binary64 → Binary64
  | .nan, _ | _, .nan => .nan
  | .finite x, .finite y => x.add y
  | .finite _, .infinite s => .infinite s
  | .infinite s, .finite _ => .infinite s
  | .infinite s, .infinite t => if s = t then .infinite s else .nan

def sub (x y : Binary64) : Binary64 :=
  x.add y.neg

def mul : Binary64 → Binary64 → Binary64
  | .nan, _ | _, .nan => .nan
  | .finite x, .finite y => x.mul y
  | .finite x, .infinite s | .infinite s, .finite x =>
    if x.isZero then .nan else .infinite (x.negative != s)
  | .infinite s, .infinite t => .infinite (s != t)

def div : Binary64 → Binary64 → Binary64
  | .nan, _ | _, .nan => .nan
  | .finite x, .finite y => x.div y
  | .finite x, .infinite s => .finite (Finite.zero (x.negative != s))
  | .infinite s, .finite y => .infinite (s != y.negative)
  | .infinite _, .infinite _ => .nan

def rem : Binary64 → Binary64 → Binary64
  | .nan, _ | _, .nan | .infinite _, _ => .nan
  | .finite x, .finite y => x.rem y
  | .finite x, .infinite _ => .finite x

/-- The order of two numbers; there is none with what is no number. -/
def compare? : Binary64 → Binary64 → Option Ordering
  | .nan, _ | _, .nan => none
  | .finite x, .finite y => some (x.compare y)
  | .finite _, .infinite s => some (if s then .gt else .lt)
  | .infinite s, .finite _ => some (if s then .lt else .gt)
  | .infinite s, .infinite t => some (Ord.compare (!s).toNat (!t).toNat)

/-- Numerical equality; the zeros are equal, and what is no number equals nothing. -/
def sameValue (x y : Binary64) : Bool :=
  x.compare? y == some .eq

def isLess (x y : Binary64) : Bool :=
  x.compare? y == some .lt

/-- The greatest integral number that is not above the number; a zero keeps its sign. -/
def floor : Binary64 → Binary64
  | .finite x => if x.isIntegral then .finite x else withSign x.negative (ofInt x.floor)
  | x => x
where
  -- A zero of the given sign for a zero result.
  withSign (negative : Bool) : Binary64 → Binary64
    | .finite y => if y.isZero then .finite (Finite.zero negative) else .finite y
    | y => y

/-- The least integral number that is not below the number; a zero takes the number's sign. -/
def ceil (x : Binary64) : Binary64 :=
  x.neg.floor.neg

/-- The finite number nearest to an integer; integers out of range go to the largest number. -/
def Finite.ofInt (n : Int) : Finite :=
  ((Binary64.ofInt n).finite?).getD (Finite.largest (n < 0))

end Binary64
end Gleaner
