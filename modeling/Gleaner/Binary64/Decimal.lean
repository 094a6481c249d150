import Gleaner.Binary64.Basic
import Gleaner.Text.Blank
/-!
# Decimal text of binary numbers

* `Finite.shortest` finds the decimal number with the fewest digits that reads back as the number,
  and of those the nearest one;
* `Style` says how such a decimal is laid out, `Finite.written` lays it out;
* `ofText?` reads decimal text, and the words for the infinities and for what is no number.
-/

namespace Gleaner
namespace Binary64

/-! ## Shortest digits -/

/-- A decimal number `digits * 10 ^ exponent`. -/
structure Decimal where
  digits : Nat
  exponent : Int
  deriving DecidableEq, Repr

def digitCount (n : Nat) : Nat :=
  (Nat.toDigits 10 n).length

/-- Move trailing zeros of the digits into the exponent, at most `fuel` of them. -/
def Decimal.stripped : (fuel : Nat) → Decimal → Decimal
  | 0, d => d
  | fuel + 1, d =>
    if d.digits ≠ 0 ∧ d.digits % 10 = 0 then stripped fuel ⟨d.digits / 10, d.exponent + 1⟩ else d

namespace Finite

/--
The interval of reals that round to a positive number, in quarters of a unit: the distance to its
lower and to its upper end. The ends belong to it when the significand is even.
-/
def roundingGaps (x : Finite) : Nat × Nat :=
  let half := 2 * 2 ^ x.exponent
  (if x.significand = 2 ^ 52 ∧ x.exponent ≠ 0 then half / 2 else half, half)

def quartersPerOne : Nat :=
  4 * unitsPerOne

/-- Whether `num / den` quarters of a unit round to the magnitude of `x`. -/
def roundsHere (x : Finite) (num den : Nat) : Bool :=
  let here := 4 * x.magnitude
  let (below, above) := x.roundingGaps
  if x.significand % 2 = 0 then
    (here - below) * den ≤ num && num ≤ (here + above) * den
  else
    (here - below) * den < num && num < (here + above) * den

/-- The exponent `k` with `10 ^ k ≤ |x| < 10 ^ (k + 1)`, for a number that is not zero. -/
def decimalExponent (x : Finite) : Int :=
  (digitCount (x.magnitude * 10 ^ 400 / unitsPerOne) : Int) - 401

/--
The best decimal on the grid of multiples of `10 ^ exponent`, if one of the two neighbours of the
number there reads back: the nearer one, and of two equally near the even one.
-/
def onGrid? (x : Finite) (exponent : Int) : Option Decimal :=
  let up := 10 ^ (-exponent).toNat
  let down := 10 ^ exponent.toNat
  let here := 4 * x.magnitude * up
  let step := quartersPerOne * down
  let low := here / step
  let lowOk := x.roundsHere (low * step) up
  let highOk := x.roundsHere ((low + 1) * step) up
  let rest := here % step
  let lowNearer := 2 * rest < step || (2 * rest == step && low % 2 == 0)
  match lowOk, highOk with
  | true, true => some ⟨if lowNearer then low else low + 1, exponent⟩
  | true, false => some ⟨low, exponent⟩
  | false, true => some ⟨low + 1, exponent⟩
  | false, false => none

/-- The first hit among the grids that give the number one digit, two digits, and so on. -/
def firstGrid (x : Finite) (top : Int) : (count : Nat) → (digits : Nat) → Decimal
  | 0, _ => ⟨x.magnitude, 0⟩
  | count + 1, digits =>
    match x.onGrid? (top + 1 - digits) with
    | some d => d
    | none => firstGrid x top count (digits + 1)

/-- The decimal with the fewest digits that reads back as `|x|`, and of those the nearest. -/
def shortest (x : Finite) : Decimal :=
  if x.isZero then ⟨0, 0⟩
  else (x.firstGrid x.decimalExponent 17 1).stripped 20

end Finite

/-! ## Layout -/

structure Style where
  -- The scientific exponents that are written without an exponent; with `none` all are.
  positional : Option (Int × Int)
  -- Whether an integral number keeps a zero after the point.
  keepsPoint : Bool
  -- Whether an exponent that is not negative has a plus sign.
  plusSign : Bool
  deriving Repr

def Decimal.positionalText (keepsPoint : Bool) (d : Decimal) : String :=
  let digits := Nat.toDigits 10 d.digits
  let places := (-d.exponent).toNat
  if 0 ≤ d.exponent then
    String.ofList (digits ++ (if d.digits = 0 then [] else List.replicate d.exponent.toNat '0')) ++
      (if keepsPoint then ".0" else "")
  else
    let padded := List.replicate (places + 1 - digits.length) '0' ++ digits
    let whole := padded.take (padded.length - places)
    String.ofList (whole ++ '.' :: padded.drop whole.length)

/-- The text of a decimal number with one digit before the point and an exponent. -/
def Decimal.scientificText (plusSign : Bool) (d : Decimal) : String :=
  let digits := Nat.toDigits 10 d.digits
  let exponent := d.exponent + (digits.length : Int) - 1
  let mantissa :=
    match digits with
    | [] => []
    | [one] => [one]
    | one :: more => one :: '.' :: more
  String.ofList mantissa ++ "e" ++ (if exponent < 0 then "-" else if plusSign then "+" else "") ++
    String.ofList (Nat.toDigits 10 exponent.natAbs)

/-- The text of a finite number: its shortest digits in the given style. -/
def Finite.written (style : Style) (x : Finite) : String :=
  let d := x.shortest
  let scientificExponent := d.exponent + (digitCount d.digits : Int) - 1
  let isPositional :=
    match style.positional with
    | none => true
    | some (low, high) => d.digits == 0 || (low ≤ scientificExponent && scientificExponent ≤ high)
  (if x.negative then "-" else "") ++
    if isPositional then d.positionalText style.keepsPoint else d.scientificText style.plusSign

/-- Plain digits without an exponent, and no point in an integral number. -/
def plainStyle : Style :=
  ⟨none, false, false⟩

/-! ## Reading -/

def digitsValue (digits : List Char) : Nat :=
  digits.foldl (fun n c => 10 * n + (c.toNat - '0'.toNat)) 0

/-- An optional sign, and the rest; the flag is true of a minus sign. -/
def readSign : List Char → Bool × List Char
  | '+' :: rest => (false, rest)
  | '-' :: rest => (true, rest)
  | rest => (false, rest)

def readExponent? : List Char → Option Int
  | [] => some 0
  | c :: rest =>
    if c = 'e' ∨ c = 'E' then
      let (negative, digits) := readSign rest
      if digits.isEmpty || !digits.all Char.isDigit then none
      else
        let n : Int := digitsValue digits
        some (if negative then -n else n)
    else none

/-- Unsigned decimal text: digits with an optional point among or around them, and an exponent. -/
def readUnsigned? (negative : Bool) (cs : List Char) : Option Binary64 :=
  let whole := cs.takeWhile Char.isDigit
  let afterWhole := cs.dropWhile Char.isDigit
  let (fraction, rest) :=
    match afterWhole with
    | '.' :: more => (more.takeWhile Char.isDigit, more.dropWhile Char.isDigit)
    | more => ([], more)
  if whole.isEmpty && fraction.isEmpty then none
  else
    (readExponent? rest).map fun exponent =>
      ofDecimal negative (digitsValue (whole ++ fraction)) (exponent - fraction.length)

/--
The number nearest to a decimal text: an optional sign, then digits with at most one point, at least
one digit, and an optional exponent; or the words `inf`, `infinity`, `nan` in any case.
-/
def ofText? (cs : List Char) : Option Binary64 :=
  let (negative, rest) := readSign cs
  let word := String.ofList (rest.map Text.asciiLowerChar)
  if word = "inf" ∨ word = "infinity" then some (.infinite negative)
  else if word = "nan" then some .nan
  else readUnsigned? negative rest

end Binary64
end Gleaner
