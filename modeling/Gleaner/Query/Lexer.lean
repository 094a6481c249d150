import Gleaner.Json.Reader
import Gleaner.Query.Token
import Gleaner.Text.Name
/-!
# Lexical analysis of queries

* `scan` reads the token at the front of a text and says how many more characters it takes up;
* `lexFrom` cuts a text into lexemes, with the byte offset at which each begins;
* `lex` does so from the beginning.
-/

namespace Gleaner
namespace Query

def nameLength (cs : List Char) : Nat :=
  (cs.takeWhile Text.isNameChar).length

def digitsLength (cs : List Char) : Nat :=
  (cs.takeWhile Char.isDigit).length

/-- The length of a string literal after its opening quote, up to and with the closing one. -/
def literalLength? : (escaped : Bool) → List Char → Option Nat
  | _, [] => none
  | true, _ :: rest => (literalLength? false rest).map (· + 1)
  | false, c :: rest =>
    if c = '"' then some 1 else (literalLength? (c == '\\') rest).map (· + 1)

/-- The length of a point with digits after it, or zero. -/
def fractionLength : List Char → Nat
  | '.' :: rest => if digitsLength rest = 0 then 0 else digitsLength rest + 1
  | _ => 0

/-- The length of an exponent with at least one digit, or zero. -/
def exponentLength : List Char → Nat
  | c :: rest =>
    if c = 'e' ∨ c = 'E' then
      let sign :=
        match rest with
        | '+' :: _ | '-' :: _ => 1
        | _ => 0
      let digits := digitsLength (rest.drop sign)
      if digits = 0 then 0 else 1 + sign + digits
    else 0
  | [] => 0

/-- The length of a number after its first digit. -/
def numeralLength (rest : List Char) : Nat :=
  let whole := digitsLength rest
  let fraction := fractionLength (rest.drop whole)
  whole + fraction + exponentLength (rest.drop (whole + fraction))

/-- The token of one or two symbols at the front, and how many symbols follow the first. -/
def symbol? (c : Char) (next : Option Char) : Option (Token × Nat) :=
  match c, next with
  | '=', some '=' => some (.comparison .eq, 1)
  | '!', some '=' => some (.comparison .ne, 1)
  | '<', some '=' => some (.comparison .le, 1)
  | '>', some '=' => some (.comparison .ge, 1)
  | '/', some '/' => some (.alternative, 1)
  | '<', _ => some (.comparison .lt, 0)
  | '>', _ => some (.comparison .gt, 0)
  | '[', _ => some (.leftBracket, 0)
  | ']', _ => some (.rightBracket, 0)
  | '(', _ => some (.leftParen, 0)
  | ')', _ => some (.rightParen, 0)
  | ',', _ => some (.comma, 0)
  | ':', _ => some (.colon, 0)
  | ';', _ => some (.semicolon, 0)
  | '|', _ => some (.pipe, 0)
  | '?', _ => some (.question, 0)
  | '+', _ => some (.operator .add, 0)
  | '-', _ => some (.operator .sub, 0)
  | '*', _ => some (.operator .mul, 0)
  | '/', _ => some (.operator .div, 0)
  | '%', _ => some (.operator .mod, 0)
  | _, _ => none

/--
The token that begins with the character `c` at a byte offset, and how many of the characters of
`rest` belong to it.
-/
def scan (offset : Nat) (c : Char) (rest : List Char) : Except Error (Token × Nat) :=
  if c = '.' then
    match rest with
    | '.' :: _ => .ok (.dotDot, 1)
    | d :: _ =>
      if Text.isNameStart d then
        .ok (.field (String.ofList (rest.takeWhile Text.isNameChar)), nameLength rest)
      else .ok (.dot, 0)
    | [] => .ok (.dot, 0)
  else if c = '"' then
    match literalLength? false rest with
    | none => .error (.unterminatedString offset)
    | some n =>
      match Json.readString? (c :: rest.take n) with
      | none => .error (.invalidString offset)
      | some text => .ok (.str text, n)
  else if c.isDigit then
    let n := numeralLength rest
    .ok (.num ((Binary64.ofText? (c :: rest.take n)).getD .nan), n)
  else if Text.isNameStart c then
    .ok (.ident (String.ofList (c :: rest.takeWhile Text.isNameChar)), nameLength rest)
  else
    match symbol? c rest.head? with
    | some token => .ok token
    | none => .error (.unexpectedChar c offset)

def lexFrom (offset : Nat) (cs : List Char) : Except Error (List Lexeme) :=
  match cs with
  | [] => .ok []
  | c :: rest =>
    if Text.isBlank c then lexFrom (offset + c.utf8Size) rest
    else
      match scan offset c rest with
      | .error e => .error e
      | .ok (token, n) =>
        (lexFrom (offset + c.utf8Size + Text.byteLength (rest.take n)) (rest.drop n)).map
          (⟨token, offset⟩ :: ·)
termination_by cs.length
decreasing_by
  all_goals simp only [List.length_cons, List.length_drop]
  all_goals omega

def lex (cs : List Char) : Except Error (List Lexeme) :=
  lexFrom 0 cs

end Query
end Gleaner
