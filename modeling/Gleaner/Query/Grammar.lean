import Gleaner.Query.Lexer
import Gleaner.Query.Surface
/-!
# The grammar of queries

Binary operators stand on levels, from the pipe, which binds weakest, to the product. A level's
operand is an expression of the next level.

* `Level` and `Binary` describe the levels and the operators on them;
* `parseLevel`, `parseRest`, `parsePostfix`, `parsePrimary`, … read an expression from the front of
  a list of lexemes and return what is left;
* `Query.read` reads a whole text.

The functions recurse on a bound of the nesting. `nestingBound` is large enough: from one lexeme to
the next the recursion passes each level at most once.
-/

namespace Gleaner
namespace Query

/-- The levels of binary operators, weakest first, and of unary ones. -/
inductive Level where
  | pipe | comma | alternative | or | and | comparison | additive | multiplicative | unary
  deriving DecidableEq, Repr

inductive Binary where
  | pipe | comma | alternative | or | and
  | comparison (op : Comparison)
  | operator (op : Operator)
  deriving DecidableEq, Repr

namespace Level

def next : Level → Level
  | .pipe => .comma
  | .comma => .alternative
  | .alternative => .or
  | .or => .and
  | .and => .comparison
  | .comparison => .additive
  | .additive => .multiplicative
  | .multiplicative => .unary
  | .unary => .unary

/-- The level of the right operand: alternatives group to the right, all else to the left. -/
def rightOperand : Level → Level
  | .alternative => .alternative
  | level => level.next

/-- Whether an operator of the level may follow the right operand of another one. -/
def repeats : Level → Bool
  | .alternative | .comparison | .unary => false
  | _ => true

def operator? : Level → Token → Option Binary
  | .pipe, .pipe => some .pipe
  | .comma, .comma => some .comma
  | .alternative, .alternative => some .alternative
  | .or, .ident name => if name = "or" then some .or else none
  | .and, .ident name => if name = "and" then some .and else none
  | .comparison, .comparison op => some (.comparison op)
  | .additive, .operator op => if op = .add ∨ op = .sub then some (.operator op) else none
  | .multiplicative, .operator op => if op = .add ∨ op = .sub then none else some (.operator op)
  | _, _ => none

end Level

def Binary.build : Binary → Query → Query → Query
  | .pipe => .pipe
  | .comma => .comma
  | .alternative => .alternative
  | .or => .or
  | .and => .and
  | .comparison op => .compare op
  | .operator op => .arith op

/-- The offset of the next lexeme, or the end of the text. -/
def here (stop : Nat) : List Lexeme → Nat
  | [] => stop
  | l :: _ => l.offset

def expect (stop : Nat) (token : Token) : List Lexeme → Except Error (List Lexeme)
  | [] => .error (.misplaced stop (.expected token))
  | l :: rest =>
    if l.token = token then .ok rest else .error (.misplaced l.offset (.expected token))

def startsOperand : List Lexeme → Bool
  | [] => false
  | l :: _ =>
    match l.token with
    | .ident name => name != "and" && name != "or"
    | .dot | .dotDot | .field _ | .str _ | .num _ | .leftParen | .leftBracket => true
    | .operator op => op == .sub
    | _ => false

/-- The query of a call; the negation word takes one argument like a function. -/
def buildCall (name : String) (arguments : List Query) : Except Error Query :=
  match arguments with
  | [inner] =>
    if name = "not" then .ok (.not inner)
    else
      match Builtin.find? name 1 with
      | some f => .ok (.call f [inner])
      | none => .error (.unknownFunction name 1)
  | _ => .error (.unknownFunction name arguments.length)

/-- The query of a name that is not called: a constant, a function, or a member of the input. -/
def buildName (name : String) : Query :=
  if name = "true" then .literal (.bool true)
  else if name = "false" then .literal (.bool false)
  else if name = "null" then .literal .null
  else
    match Builtin.find? name 0 with
    | some f => .call f []
    | none => .field .identity name

/-- Whether a name is a constant, which is never called. -/
def isConstantName (name : String) : Bool :=
  name == "true" || name == "false" || name == "null"

mutual

/-- An expression whose operators bind at least as strongly as the level's. -/
def parseLevel (stop : Nat) :
    (fuel : Nat) → Level → List Lexeme → Except Error (Query × List Lexeme)
  | 0, _, ls => .error (.misplaced (here stop ls) .unexpectedEnd)
  | fuel + 1, .unary, ls =>
    match ls with
    | [] => parsePostfix stop fuel ls
    | l :: rest =>
      if l.token = .operator .sub then do
        let (inner, after) ← parseLevel stop fuel .unary rest
        .ok (.neg inner, after)
      else if l.token = .ident "not" ∧ (rest.head?.map (·.token)) ≠ some .leftParen then
        if startsOperand rest then do
          let (inner, after) ← parseLevel stop fuel .unary rest
          .ok (.not inner, after)
        else .ok (.not .identity, rest)
      else parsePostfix stop fuel ls
  | fuel + 1, level, ls => do
    let (left, rest) ← parseLevel stop fuel level.next ls
    parseRest stop fuel level left rest

/-- The operators of one level and their right operands, after a left operand. -/
def parseRest (stop : Nat) :
    (fuel : Nat) → Level → Query → List Lexeme → Except Error (Query × List Lexeme)
  | 0, _, _, ls => .error (.misplaced (here stop ls) .unexpectedEnd)
  | _ + 1, _, left, [] => .ok (left, [])
  | fuel + 1, level, left, l :: rest =>
    match level.operator? l.token with
    | none => .ok (left, l :: rest)
    | some op => do
      let (right, after) ← parseLevel stop fuel level.rightOperand rest
      if level.repeats then parseRest stop fuel level (op.build left right) after
      else .ok (op.build left right, after)

def parsePostfix (stop : Nat) : (fuel : Nat) → List Lexeme → Except Error (Query × List Lexeme)
  | 0, ls => .error (.misplaced (here stop ls) .unexpectedEnd)
  | fuel + 1, ls => do
    let (target, rest) ← parsePrimary stop fuel ls
    parseSuffixes stop fuel target rest

def parseSuffixes (stop : Nat) :
    (fuel : Nat) → Query → List Lexeme → Except Error (Query × List Lexeme)
  | 0, _, ls => .error (.misplaced (here stop ls) .unexpectedEnd)
  | _ + 1, target, [] => .ok (target, [])
  | fuel + 1, target, l :: rest =>
    match l.token with
    | .field name => parseSuffixes stop fuel (.field target name) rest
    | .dot =>
      match rest with
      | ⟨.leftBracket, offset⟩ :: inside =>
        parseSuffixes stop fuel target (⟨.leftBracket, offset⟩ :: inside)
      | ⟨.str name, _⟩ :: after => parseSuffixes stop fuel (.field target name) after
      | _ => .ok (target, l :: rest)
    | .leftBracket => do
      let (selected, after) ← parseBracket stop fuel target rest
      parseSuffixes stop fuel selected after
    | .question => parseSuffixes stop fuel (.optional target) rest
    | _ => .ok (target, l :: rest)

/-- What stands after an opening bracket behind a target, with the closing bracket. -/
def parseBracket (stop : Nat) :
    (fuel : Nat) → Query → List Lexeme → Except Error (Query × List Lexeme)
  | 0, _, ls => .error (.misplaced (here stop ls) .unexpectedEnd)
  | _ + 1, target, ⟨.rightBracket, _⟩ :: rest => .ok (.iterate target, rest)
  | fuel + 1, target, ⟨.colon, _⟩ :: rest => do
    let (high, after) ← parseLevel stop fuel .pipe rest
    let after ← expect stop .rightBracket after
    .ok (.slice target none (some high), after)
  | fuel + 1, target, ls => do
    let (position, after) ← parseLevel stop fuel .pipe ls
    match after with
    | ⟨.colon, _⟩ :: ⟨.rightBracket, _⟩ :: rest => .ok (.slice target (some position) none, rest)
    | ⟨.colon, _⟩ :: rest => do
      let (high, after) ← parseLevel stop fuel .pipe rest
      let after ← expect stop .rightBracket after
      .ok (.slice target (some position) (some high), after)
    | after => do
      let after ← expect stop .rightBracket after
      .ok (.index target position, after)

/-- An expression that is no operator's application. -/
def parsePrimary (stop : Nat) : (fuel : Nat) → List Lexeme → Except Error (Query × List Lexeme)
  | 0, ls => .error (.misplaced (here stop ls) .unexpectedEnd)
  | _ + 1, [] => .error (.misplaced stop .unexpectedEnd)
  | fuel + 1, l :: rest =>
    match l.token with
    | .dot =>
      match rest with
      | ⟨.str name, _⟩ :: after => .ok (.field .identity name, after)
      | _ => .ok (.identity, rest)
    | .dotDot => .ok (.recurse, rest)
    | .field name => .ok (.field .identity name, rest)
    | .str text => .ok (.literal (.string text), rest)
    | .num value =>
      match Number.ofBinary? value with
      | some n => .ok (.literal (.number n), rest)
      | none => .error (.misplaced l.offset .numberOutOfRange)
    | .leftParen => do
      let (inner, after) ← parseLevel stop fuel .pipe rest
      let after ← expect stop .rightParen after
      .ok (inner, after)
    | .leftBracket =>
      match rest with
      | ⟨.rightBracket, _⟩ :: after => .ok (.array none, after)
      | _ => do
        let (inner, after) ← parseLevel stop fuel .pipe rest
        let after ← expect stop .rightBracket after
        .ok (.array (some inner), after)
    | .ident name => parseName stop fuel name l.offset rest
    | token => .error (.misplaced l.offset (.unexpectedToken token))

/-- What a name at an offset stands for, with the arguments after it if it is called. -/
def parseName (stop : Nat) :
    (fuel : Nat) → String → (offset : Nat) → List Lexeme → Except Error (Query × List Lexeme)
  | 0, _, _, ls => .error (.misplaced (here stop ls) .unexpectedEnd)
  | fuel + 1, name, offset, ls =>
    if isConstantName name then .ok (buildName name, ls)
    else if name = "and" ∨ name = "or" then .error (.misplaced offset (.unexpectedKeyword name))
    else
      match ls with
      | ⟨.leftParen, _⟩ :: inside => do
        let (arguments, after) ← parseArguments stop fuel inside
        let q ← buildCall name arguments
        .ok (q, after)
      | ls => .ok (buildName name, ls)

/-- The arguments of a call, at least one, with the closing parenthesis. -/
def parseArguments (stop : Nat) :
    (fuel : Nat) → List Lexeme → Except Error (List Query × List Lexeme)
  | 0, ls => .error (.misplaced (here stop ls) .unexpectedEnd)
  | fuel + 1, ls => do
    let (argument, after) ← parseLevel stop fuel .pipe ls
    match after with
    | ⟨.semicolon, _⟩ :: more => do
      let (arguments, after) ← parseArguments stop fuel more
      .ok (argument :: arguments, after)
    | after => do
      let after ← expect stop .rightParen after
      .ok ([argument], after)

end

def nestingBound (ls : List Lexeme) : Nat :=
  16 * (ls.length + 1)

/-- The query that a list of lexemes writes, in a text that ends at a byte offset. -/
def ofLexemes (stop : Nat) (ls : List Lexeme) : Except Error Query :=
  if ls.isEmpty then .error (.misplaced 0 .emptyExpression)
  else do
    let (q, rest) ← parseLevel stop (nestingBound ls) .pipe ls
    match rest with
    | [] => .ok q
    | l :: _ => .error (.misplaced l.offset (.unexpectedToken l.token))

/-- The query that a text writes, after its surface form is normalized. -/
def read (source : String) : Except Error Query := do
  let cs := normalize source.toList
  ofLexemes (Text.byteLength cs) (← lex cs)

end Query
end Gleaner
