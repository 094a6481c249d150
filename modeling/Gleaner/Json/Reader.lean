import Gleaner.Json.Basic
import Gleaner.Text.CodePoint
/-!
# Reading JSON text

* `Json.read?` reads a whole text as one value, nested less than `depthLimit` deep;
* `Json.readString?` reads a string literal;
* `readNumber?` reads a number: an integer of 64 bits stays exact, any other number is scaled from
  its leading digits by powers of ten, rounding at each step.

The recursion is bounded by the number of characters: each call of `readValue?` consumes one.
-/

namespace Gleaner
namespace Json

def isSpace (c : Char) : Bool :=
  c == ' ' || c == '\t' || c == '\n' || c == '\r'

def skipSpace (cs : List Char) : List Char :=
  cs.dropWhile isSpace

/-! ## Strings -/

def readHex4? : List Char → Option (Nat × List Char)
  | a :: b :: c :: d :: rest => (Text.numeral? 16 [a, b, c, d]).map (·, rest)
  | _ => none

/-- The character of an escape sequence after its backslash, and the rest. -/
def readEscape? : List Char → Option (Char × List Char)
  | '"' :: rest => some ('"', rest)
  | '\\' :: rest => some ('\\', rest)
  | '/' :: rest => some ('/', rest)
  | 'b' :: rest => some (Char.ofNat 8, rest)
  | 'f' :: rest => some (Char.ofNat 12, rest)
  | 'n' :: rest => some ('\n', rest)
  | 'r' :: rest => some ('\r', rest)
  | 't' :: rest => some ('\t', rest)
  | 'u' :: rest => do
    let (high, rest) ← readHex4? rest
    if 0xD800 ≤ high ∧ high < 0xDC00 then
      match rest with
      | '\\' :: 'u' :: more => do
        let (low, more) ← readHex4? more
        if 0xDC00 ≤ low ∧ low < 0xE000 then
          some (Char.ofNat (0x10000 + (high - 0xD800) * 0x400 + (low - 0xDC00)), more)
        else none
      | _ => none
    else if 0xDC00 ≤ high ∧ high < 0xE000 then none
    else some (Char.ofNat high, rest)
  | _ => none

/-- The rest of a string after its opening quote: its characters, and what follows it. -/
def readStringTail? : (fuel : Nat) → List Char → Option (List Char × List Char)
  | 0, _ | _, [] => none
  | _ + 1, '"' :: rest => some ([], rest)
  | fuel + 1, '\\' :: rest => do
    let (c, rest) ← readEscape? rest
    let (cs, rest) ← readStringTail? fuel rest
    some (c :: cs, rest)
  | fuel + 1, c :: rest =>
    if c.toNat < 32 then none
    else (readStringTail? fuel rest).map fun (cs, after) => (c :: cs, after)

def readString? : List Char → Option String
  | '"' :: rest =>
    match readStringTail? (rest.length + 1) rest with
    | some (cs, []) => some (String.ofList cs)
    | _ => none
  | _ => none

/-! ## Numbers -/

/-- Integers below this fit the exact part of a number that is read digit by digit. -/
def significandBound : Nat :=
  2 ^ 64

/-- The largest power of ten that is multiplied or divided by in one step. -/
def greatestTenPower : Nat :=
  308

def tenPower (n : Nat) : Binary64 :=
  Binary64.ofDecimal false 1 n

/--
`significand * 10 ^ exponent`, rounding at each multiplication and division by a power of ten;
nothing if the result is too large.
-/
def scaleByTen? (x : Binary64) : (fuel : Nat) → (exponent : Int) → Option Binary64.Finite
  | fuel, exponent =>
    if exponent.natAbs ≤ greatestTenPower then
      if 0 ≤ exponent then (x.mul (tenPower exponent.natAbs)).finite?
      else (x.div (tenPower exponent.natAbs)).finite?
    else if x.isZeroOrNan then x.finite?
    else if 0 ≤ exponent then none
    else
      match fuel with
      | 0 => some (Binary64.Finite.zero false)
      | fuel + 1 =>
        scaleByTen? (x.div (tenPower greatestTenPower)) fuel (exponent + greatestTenPower)

/--
Take digits onto a significand as long as it fits 64 bits. The result is the significand, how many
digits were taken, and the digits left.
-/
def takeDigits : (significand taken : Nat) → List Char → Nat × Nat × List Char
  | s, taken, [] => (s, taken, [])
  | s, taken, c :: rest =>
    let next := 10 * s + (c.toNat - '0'.toNat)
    if next < significandBound then takeDigits next (taken + 1) rest else (s, taken, c :: rest)

/--
The binary number of a literal with the given digits before and after the point and the given
exponent. Digits that no longer fit the significand count by their place only; after the point they
are dropped. A number too large for the format is refused.
-/
def readReal? (negative : Bool) (whole fraction : List Char) (exponent : Int) :
    Option Binary64.Finite := do
  let (significand, _, left) := takeDigits 0 0 whole
  let (significand, taken, _) := takeDigits significand 0 fraction
  let x ← scaleByTen? (Binary64.ofInt significand) 5 (exponent + left.length - taken)
  some (if negative then x.neg else x)

/-- An integer literal: exact when it fits 64 bits, a binary number otherwise. -/
def readInteger? (negative : Bool) (digits : List Char) : Option Number :=
  let n := Binary64.digitsValue digits
  if negative then
    if n ≠ 0 ∧ Number.leastInteger ≤ -(n : Int) then some (.integer (-n))
    else (readReal? negative digits [] 0).map .real
  else if (n : Int) < Number.integerBound then some (.integer n)
  else (readReal? negative digits [] 0).map .real

/-- The digits of an exponent part and its sign, or nothing when there is no such part. -/
def readExponentPart? : List Char → Option (Option Int × List Char)
  | c :: rest =>
    if c = 'e' ∨ c = 'E' then
      let (negative, rest) := Binary64.readSign rest
      let digits := rest.takeWhile Char.isDigit
      if digits.isEmpty then none
      else
        let n : Int := Binary64.digitsValue digits
        some (some (if negative then -n else n), rest.dropWhile Char.isDigit)
    else some (none, c :: rest)
  | [] => some (none, [])

/-- A number at the front of the text. A zero is followed by no digit. -/
def readNumber? (cs : List Char) : Option (Number × List Char) := do
  let (negative, cs) :=
    match cs with
    | '-' :: rest => (true, rest)
    | cs => (false, cs)
  let whole := cs.takeWhile Char.isDigit
  let rest := cs.dropWhile Char.isDigit
  if whole.isEmpty || (whole.head? == some '0' && whole.length ≠ 1) then none
  else
    match rest with
    | '.' :: more =>
      let fraction := more.takeWhile Char.isDigit
      if fraction.isEmpty then none
      else
        let (exponent, rest) ← readExponentPart? (more.dropWhile Char.isDigit)
        let x ← readReal? negative whole fraction (exponent.getD 0)
        some (.real x, rest)
    | rest =>
      match ← readExponentPart? rest with
      | (none, rest) => (readInteger? negative whole).map fun n => (n, rest)
      | (some exponent, rest) =>
        let x ← readReal? negative whole [] exponent
        some (.real x, rest)

/-! ## Values -/

def depthLimit : Nat :=
  128

def readWord? (word : String) (v : Json) (cs : List Char) : Option (Json × List Char) :=
  (Text.dropPrefix? word.toList cs).map fun rest => (v, rest)

mutual

/-- A value at the front of the text, with `depth` levels of nesting left. -/
def readValue? : (fuel depth : Nat) → List Char → Option (Json × List Char)
  | 0, _, _ => none
  | fuel + 1, depth, cs =>
    match skipSpace cs with
    | [] => none
    | c :: rest =>
      if c = '"' then do
        let (s, after) ← readStringTail? fuel rest
        some (.string (String.ofList s), after)
      else if c = '[' then
        match depth with
        | 0 | 1 => none
        | depth + 1 =>
          match skipSpace rest with
          | ']' :: after => some (.array [], after)
          | rest => do
            let (items, after) ← readItems? fuel depth rest
            some (.array items, after)
      else if c = '\x7b' then
        match depth with
        | 0 | 1 => none
        | depth + 1 =>
          match skipSpace rest with
          | '\x7d' :: after => some (.object [], after)
          | rest => do
            let (members, after) ← readMembers? fuel depth [] rest
            some (.object members, after)
      else if c = 't' then readWord? "true" (.bool true) (c :: rest)
      else if c = 'f' then readWord? "false" (.bool false) (c :: rest)
      else if c = 'n' then readWord? "null" .null (c :: rest)
      else (readNumber? (c :: rest)).map fun (n, after) => (.number n, after)

def readItems? : (fuel depth : Nat) → List Char → Option (List Json × List Char)
  | 0, _, _ => none
  | fuel + 1, depth, cs => do
    let (v, rest) ← readValue? fuel depth cs
    match skipSpace rest with
    | ']' :: after => some ([v], after)
    | ',' :: more =>
      let (items, after) ← readItems? fuel depth more
      some (v :: items, after)
    | _ => none

/-- The members of an object up to its closing brace, at least one, set after those of `held`. -/
def readMembers? : (fuel depth : Nat) → (held : Members) → List Char → Option (Members × List Char)
  | 0, _, _, _ => none
  | fuel + 1, depth, held, cs =>
    match skipSpace cs with
    | '"' :: rest => do
      let (key, rest) ← readStringTail? fuel rest
      match skipSpace rest with
      | ':' :: rest =>
        let (v, rest) ← readValue? fuel depth rest
        let held := Members.insert (String.ofList key) v held
        match skipSpace rest with
        | '\x7d' :: after => some (held, after)
        | ',' :: more => readMembers? fuel depth held more
        | _ => none
      | _ => none
    | _ => none

end

/-- The one value that a text holds, with nothing but space around it. -/
def read? (s : String) : Option Json :=
  let cs := s.toList
  match readValue? (2 * cs.length + 2) depthLimit cs with
  | some (v, rest) => if (skipSpace rest).isEmpty then some v else none
  | none => none

end Json
end Gleaner
