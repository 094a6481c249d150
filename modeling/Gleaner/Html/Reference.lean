import Gleaner.Html.NamedCharacters
import Gleaner.Text.Blank
/-!
# References to characters

A document refers to a character by its name or by its number, after an ampersand.

* `readNumber` reads a reference by number, `readName?` one by name;
* `readReference` reads what follows an ampersand; what is no reference stays as it is.

A reference by number to what is no character stands for the replacement character, and the numbers
of an old character set for the characters of that set.
-/

namespace Gleaner
namespace Html

def replacement : Char :=
  Char.ofNat 0xFFFD

/-- The characters that the numbers from 128 to 159 stand for; zero stands for the number itself. -/
def oldCharacters : List Nat :=
  [0x20AC, 0, 0x201A, 0x0192, 0x201E, 0x2026, 0x2020, 0x2021, 0x02C6, 0x2030, 0x0160, 0x2039,
    0x0152, 0, 0x017D, 0, 0, 0x2018, 0x2019, 0x201C, 0x201D, 0x2022, 0x2013, 0x2014, 0x02DC,
    0x2122, 0x0161, 0x203A, 0x0153, 0, 0x017E, 0x0178]

def characterOf (n : Nat) : Char :=
  if n = 0 ∨ !n.isValidChar then replacement
  else if 128 ≤ n ∧ n < 160 then
    match oldCharacters[n - 128]? with
    | none | some 0 => Char.ofNat n
    | some m => Char.ofNat m
  else Char.ofNat n

/-- What follows a semicolon at the front, or the text itself without one. -/
def skipSemicolon : List Char → List Char
  | ';' :: rest => rest
  | cs => cs

/-- The reference by number after the ampersand and the number sign, and what follows it. -/
def readNumber? (cs : List Char) : Option (List Char × List Char) :=
  let (isHex, body) :=
    match cs with
    | 'x' :: rest | 'X' :: rest => (true, rest)
    | _ => (false, cs)
  let isDigit := if isHex then Text.isHexDigit else Char.isDigit
  let digits := body.takeWhile isDigit
  if digits.isEmpty then none
  else do
    let n ← Text.numeral? (if isHex then 16 else 10) digits
    some ([characterOf n], skipSemicolon (body.dropWhile isDigit))

/-- The longest name that needs no semicolon at the front of a run, at most `length` long. -/
def briefName? (run : List Char) : (length : Nat) → Option String
  | 0 => none
  | length + 1 =>
    let name := String.ofList (run.take (length + 1))
    if briefNames.contains name then some name else briefName? run length

/--
The reference by name after the ampersand, and what follows it. In the value of an attribute, a name
without a semicolon is no reference when more letters or an equals sign follow.
-/
def readName? (inValue : Bool) (cs : List Char) : Option (List Char × List Char) :=
  let run := cs.takeWhile Char.isAlphanum
  let rest := cs.dropWhile Char.isAlphanum
  let whole :=
    match rest with
    | ';' :: after => (namedCharacter? (String.ofList run)).map (·, after)
    | _ => none
  whole.orElse fun _ => do
    let name ← briefName? run run.length
    let value ← namedCharacter? name
    let after := cs.drop name.length
    let goesOn := (after.head?.map fun c => c == '=' || c.isAlphanum).getD false
    if inValue && goesOn then none else some (value, after)

/-- What the text after an ampersand stands for, and what follows it. -/
def readReference (inValue : Bool) (cs : List Char) : List Char × List Char :=
  let found :=
    match cs with
    | '#' :: rest => readNumber? rest
    | _ => readName? inValue cs
  found.getD (['&'], cs)

/-- Text with its references replaced; `fuel` bounds its length. -/
def replaceReferences (inValue : Bool) : (fuel : Nat) → List Char → List Char
  | 0, cs => cs
  | _, [] => []
  | fuel + 1, '&' :: rest =>
    let (value, after) := readReference inValue rest
    value ++ replaceReferences inValue fuel after
  | fuel + 1, c :: rest => c :: replaceReferences inValue fuel rest

end Html
end Gleaner
