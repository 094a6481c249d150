import Gleaner.Binary64.Decimal
import Gleaner.Text.Cut
import Gleaner.XPath.Syntax
/-!
# Lexical analysis of paths

* `Token` is a token of the path language; shorthands are already written out, so `@` is an axis and
  `//` three tokens between slashes;
* `scan?` reads the tokens that begin a text;
* `tokens` reads all tokens.

After an operand the words `and`, `or`, `mod`, `div` and the star are operators, elsewhere they are
names.
-/

namespace Gleaner
namespace XPath

inductive Token where
  | slash | leftParen | rightParen | leftBracket | rightBracket | comma
  | operator (op : Operator)
  | axis (axis : Axis)
  | test (test : NodeTest)
  -- The name of a function, before its opening parenthesis.
  | function (name : Xml.Spelled)
  | variable (name : Xml.Spelled)
  | literal (s : String)
  | number (x : Binary64)
  deriving DecidableEq, Repr

/-- Whether the token after this one has to begin an operand. -/
def Token.precedesOperand : Token → Bool
  | .slash | .leftParen | .leftBracket | .comma | .operator _ | .axis _ => true
  | _ => false

/-- The tokens that signs stand for, longer signs first. -/
def signs : List (String × List Token) :=
  [("<=", [.operator .le]), (">=", [.operator .ge]), ("!=", [.operator .ne]),
    ("//", [.slash, .axis .descendantOrSelf, .test .node, .slash]),
    ("..", [.axis .parent, .test .node]),
    ("/", [.slash]), ("(", [.leftParen]), (")", [.rightParen]), ("[", [.leftBracket]),
    ("]", [.rightBracket]), ("@", [.axis .attributes]), (",", [.comma]),
    ("|", [.operator .union]), ("+", [.operator .add]), ("-", [.operator .sub]),
    ("=", [.operator .eq]), ("<", [.operator .lt]), (">", [.operator .gt])]

/-- The operators that stand only after an operand. -/
def operatorWords : List (String × List Token) :=
  [("and", [.operator .and]), ("or", [.operator .or]), ("mod", [.operator .mod]),
    ("div", [.operator .div]), ("*", [.operator .mul])]

def nodeTypes : List (String × List Token) :=
  [("comment()", [.test .comment]), ("text()", [.test .text]),
    ("processing-instruction()", [.test (.instruction none)]), ("node()", [.test .node])]

def axisWords : List (String × List Token) :=
  Axis.words.map fun (word, axis) => (word ++ "::", [.axis axis])

/-- The first entry whose word begins the text, and what follows the word. -/
def firstWord? (cs : List Char) : List (String × List Token) → Option (List Token × List Char)
  | [] => none
  | (word, tokens) :: more =>
    match Text.dropPrefix? word.toList cs with
    | some rest => some (tokens, rest)
    | none => firstWord? cs more

/-- The number at the front: digits with or without a point among them. -/
def readNumber? (cs : List Char) : Option (List Token × List Char) :=
  let whole := cs.takeWhile Char.isDigit
  let length :=
    match cs.drop whole.length with
    | '.' :: rest => whole.length + 1 + (rest.takeWhile Char.isDigit).length
    | _ => whole.length
  if (cs.take length).any Char.isDigit then
    (Binary64.ofText? (cs.take length)).map fun x => ([.number x], cs.drop length)
  else none

def readInstruction? (cs : List Char) : Option (List Token × List Char) := do
  let inside ← Text.dropPrefix? "processing-instruction(".toList cs
  match inside with
  | q :: rest =>
    if q = '"' ∨ q = '\'' then do
      let (target, after) ← Text.cutAt? [q] rest
      match after with
      | ')' :: last => some ([.test (.instruction (some (String.ofList target)))], last)
      | _ => none
    else none
  | [] => none

/-- The test of a name at the front, or the name of a function before its parenthesis. -/
def readName? (cs : List Char) : Option (List Token × List Char) :=
  match cs with
  | '*' :: rest => some ([.test (.anyName none)], rest)
  | _ => do
    let (spelled, rest) ← Xml.Spelled.read? cs
    match rest with
    | '(' :: _ => some ([.function spelled], rest)
    | ':' :: '*' :: after =>
      if spelled.front.isNone then some ([.test (.anyName (some spelled.base))], after)
      else some ([.test (.name spelled)], rest)
    | _ => some ([.test (.name spelled)], rest)

/-- The tokens that begin a text and what follows them; `afterOperand` when an operand precedes. -/
def scan? (afterOperand : Bool) (cs : List Char) : Except Misfit (List Token × List Char) :=
  match cs with
  | '"' :: rest | '\'' :: rest =>
    match Text.cutAt? (cs.take 1) rest with
    | some (content, after) => .ok ([.literal (String.ofList content)], after)
    | none => .error .unclosedLiteral
  | '$' :: rest =>
    match Xml.Spelled.read? rest with
    | some (name, after) => .ok ([.variable name], after)
    | none => .error (.unreadable (String.ofList cs))
  | _ =>
    let readings :=
      [firstWord? cs signs, readNumber? cs,
        match cs with
        | '.' :: rest => some ([.axis .self, .test .node], rest)
        | _ => none,
        if afterOperand then firstWord? cs operatorWords else none,
        firstWord? cs axisWords, firstWord? cs nodeTypes, readInstruction? cs, readName? cs]
    match readings.findSome? id with
    | some found => .ok found
    | none => .error (.unreadable (String.ofList cs))

/-- The tokens of a text, at most `fuel` of them; `afterOperand` when an operand precedes. -/
def tokensWith : (fuel : Nat) → (afterOperand : Bool) → List Char → Except Misfit (List Token)
  | 0, _, cs => if (Xml.skipSpace cs).isEmpty then .ok [] else .error .tooDeep
  | fuel + 1, afterOperand, cs =>
    match Xml.skipSpace cs with
    | [] => .ok []
    | c :: rest => do
      let (tokens, after) ← scan? afterOperand (c :: rest)
      let operand := (tokens.getLast?.map fun t => !t.precedesOperand).getD false
      let more ← tokensWith fuel operand after
      .ok (tokens ++ more)

def tokens (cs : List Char) : Except Misfit (List Token) :=
  tokensWith cs.length false cs

end XPath
end Gleaner
