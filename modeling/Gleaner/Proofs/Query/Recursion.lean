import Gleaner.Proofs.Query.Parsing
import Mathlib.Logic.Function.Iterate
/-!
# The recursion of the parser

The functions of the parser call one another, and their bound counts how deeply the calls nest. Here
the functions stand apart from the calls in them.

* `Reader` is a family of functions that read the parts of a query, and `reader` the parser's own,
  within a bound;
* `Reader.deepen` reads with the bodies of the parser's functions and lets a family answer the calls
  in them; its loops are made of the turns `Reader.operatorTurn` and `Reader.suffixTurn`;
* `reader_eq_iterate`: the parser's functions within a bound are as many layers of `deepen` on those
  that may not call at all.
-/

namespace Gleaner
namespace Query

/-- Functions that read the parts of a query, each from the front of a list of lexemes. -/
structure Reader where
  level : Level → List Lexeme → Except Error (Query × List Lexeme)
  rest : Level → Query → List Lexeme → Except Error (Query × List Lexeme)
  suffixed : List Lexeme → Except Error (Query × List Lexeme)
  suffixes : Query → List Lexeme → Except Error (Query × List Lexeme)
  bracket : Query → List Lexeme → Except Error (Query × List Lexeme)
  primary : List Lexeme → Except Error (Query × List Lexeme)
  name : String → (offset : Nat) → List Lexeme → Except Error (Query × List Lexeme)
  arguments : List Lexeme → Except Error (List Query × List Lexeme)

/-- The functions of the parser within a bound of the nesting. -/
def reader (stop fuel : Nat) : Reader where
  level := parseLevel stop fuel
  rest := parseRest stop fuel
  suffixed := parsePostfix stop fuel
  suffixes := parseSuffixes stop fuel
  bracket := parseBracket stop fuel
  primary := parsePrimary stop fuel
  name := parseName stop fuel
  arguments := parseArguments stop fuel

namespace Reader

/-!
## The bodies of the functions

Each is a function of the parser with the calls in it answered by a reader.
-/

section Bodies

variable (stop : Nat) (r : Reader)

/-- One turn of the loop over the operators of a level: an operator and its right operand. -/
def operatorTurn (level : Level) (left : Query) :
    List Lexeme → Except Error (Option (Query × List Lexeme))
  | [] => .ok none
  | l :: rest =>
    match level.operator? l.token with
    | none => .ok none
    | some op => do
      let (right, after) ← r.level level.rightOperand rest
      .ok (some (op.build left right, after))

/--
One turn of the loop over the selections after a target. The point before a bracket takes a turn of
its own.
-/
def suffixTurn (target : Query) : List Lexeme → Except Error (Option (Query × List Lexeme))
  | [] => .ok none
  | l :: rest =>
    match l.token with
    | .field name => .ok (some (.field target name, rest))
    | .dot =>
      match rest with
      | ⟨.leftBracket, offset⟩ :: inside => .ok (some (target, ⟨.leftBracket, offset⟩ :: inside))
      | ⟨.str name, _⟩ :: after => .ok (some (.field target name, after))
      | _ => .ok none
    | .leftBracket => do
      let (selected, after) ← r.bracket target rest
      .ok (some (selected, after))
    | .question => .ok (some (.optional target, rest))
    | _ => .ok none

def readLevel : Level → List Lexeme → Except Error (Query × List Lexeme)
  | .unary, [] => r.suffixed []
  | .unary, l :: rest =>
    if l.token = .operator .sub then do
      let (inner, after) ← r.level .unary rest
      .ok (.neg inner, after)
    else if l.token = .ident "not" ∧ (rest.head?.map (·.token)) ≠ some .leftParen then
      if startsOperand rest then do
        let (inner, after) ← r.level .unary rest
        .ok (.not inner, after)
      else .ok (.not .identity, rest)
    else r.suffixed (l :: rest)
  | level, ls => do
    let (left, rest) ← r.level level.next ls
    r.rest level left rest

def readRest (level : Level) (left : Query) (ls : List Lexeme) :
    Except Error (Query × List Lexeme) := do
  match ← r.operatorTurn level left ls with
  | none => .ok (left, ls)
  | some (next, after) => if level.repeats then r.rest level next after else .ok (next, after)

def readSuffixed (ls : List Lexeme) : Except Error (Query × List Lexeme) := do
  let (target, rest) ← r.primary ls
  r.suffixes target rest

def readSuffixes (target : Query) (ls : List Lexeme) : Except Error (Query × List Lexeme) := do
  match ← r.suffixTurn target ls with
  | none => .ok (target, ls)
  | some (next, after) => r.suffixes next after

def readBracket (target : Query) : List Lexeme → Except Error (Query × List Lexeme)
  | ⟨.rightBracket, _⟩ :: rest => .ok (.iterate target, rest)
  | ⟨.colon, _⟩ :: rest => do
    let (high, after) ← r.level .pipe rest
    let after ← expect stop .rightBracket after
    .ok (.slice target none (some high), after)
  | ls => do
    let (position, after) ← r.level .pipe ls
    match after with
    | ⟨.colon, _⟩ :: ⟨.rightBracket, _⟩ :: rest => .ok (.slice target (some position) none, rest)
    | ⟨.colon, _⟩ :: rest => do
      let (high, after) ← r.level .pipe rest
      let after ← expect stop .rightBracket after
      .ok (.slice target (some position) (some high), after)
    | after => do
      let after ← expect stop .rightBracket after
      .ok (.index target position, after)

def readPrimary : List Lexeme → Except Error (Query × List Lexeme)
  | [] => .error (.misplaced stop .unexpectedEnd)
  | l :: rest =>
    match l.token with
    | .dot =>
      match rest with
      | ⟨.str name, _⟩ :: after => .ok (.field .identity name, after)
      | _ => .ok (.identity, rest)
    | .dotDot => .ok (.recurse, rest)
    | .field name => .ok (.field .identity name, rest)
    | .str text => .ok (.literal (.string text), rest)
    | .num value =>
      match Number.ofBinary? value with
      | some n => .ok (.literal (.number n), rest)
      | none => .error (.misplaced l.offset .numberOutOfRange)
    | .leftParen => do
      let (inner, after) ← r.level .pipe rest
      let after ← expect stop .rightParen after
      .ok (inner, after)
    | .leftBracket =>
      match rest with
      | ⟨.rightBracket, _⟩ :: after => .ok (.array none, after)
      | _ => do
        let (inner, after) ← r.level .pipe rest
        let after ← expect stop .rightBracket after
        .ok (.array (some inner), after)
    | .ident name => r.name name l.offset rest
    | token => .error (.misplaced l.offset (.unexpectedToken token))

def readName (name : String) (offset : Nat) (ls : List Lexeme) :
    Except Error (Query × List Lexeme) :=
  if isConstantName name then .ok (buildName name, ls)
  else if name = "and" ∨ name = "or" then .error (.misplaced offset (.unexpectedKeyword name))
  else
    match ls with
    | ⟨.leftParen, _⟩ :: inside => do
      let (arguments, after) ← r.arguments inside
      let q ← buildCall name arguments
      .ok (q, after)
    | ls => .ok (buildName name, ls)

def readArguments (ls : List Lexeme) : Except Error (List Query × List Lexeme) := do
  let (argument, after) ← r.level .pipe ls
  match after with
  | ⟨.semicolon, _⟩ :: more => do
    let (arguments, after) ← r.arguments more
    .ok (argument :: arguments, after)
  | after => do
    let after ← expect stop .rightParen after
    .ok ([argument], after)

theorem readLevel_next {level : Level} (h : level ≠ .unary) (ls : List Lexeme) :
    r.readLevel level ls =
      r.level level.next ls >>= fun found => r.rest level found.1 found.2 := by
  cases level with
  | unary => exact absurd rfl h
  | _ => rfl

/-- The bodies of the parser's functions, in which a family answers the calls. -/
def deepen : Reader where
  level := r.readLevel
  rest := r.readRest
  suffixed := r.readSuffixed
  suffixes := r.readSuffixes
  bracket := r.readBracket stop
  primary := r.readPrimary stop
  name := r.readName
  arguments := r.readArguments stop

end Bodies

end Reader

/-! ## The parser as layers of bodies -/

section Layers

variable (stop fuel : Nat)

/-- One more unit of fuel is one more layer of the level's body. -/
theorem parseLevel_succ (level : Level) (ls : List Lexeme) :
    parseLevel stop (fuel + 1) level ls = (reader stop fuel).readLevel level ls := by
  by_cases hlevel : level = .unary
  · subst hlevel
    cases ls <;> rfl
  · rw [parseLevel_next hlevel, Reader.readLevel_next _ hlevel]
    rfl

/-- The loop over operators takes a turn and, after an operator that repeats, goes on behind it. -/
theorem parseRest_succ (level : Level) (left : Query) (ls : List Lexeme) :
    parseRest stop (fuel + 1) level left ls = (reader stop fuel).readRest level left ls := by
  cases ls with
  | nil => rfl
  | cons l rest =>
      rw [parseRest, Reader.readRest, Reader.operatorTurn]
      cases level.operator? l.token with
      | none => rfl
      | some op =>
          show _ = (parseLevel stop fuel level.rightOperand rest >>= _) >>= _
          rw [bind_assoc]
          rfl

/-- The loop over selections takes a turn and goes on behind it. -/
theorem parseSuffixes_succ (target : Query) (ls : List Lexeme) :
    parseSuffixes stop (fuel + 1) target ls = (reader stop fuel).readSuffixes target ls := by
  cases ls with
  | nil => rfl
  | cons l rest =>
      rcases l with ⟨token, offset⟩
      cases token with
      | dot =>
          -- what the point belongs to depends on the next token
          rcases rest with _ | ⟨⟨next, offset'⟩, after⟩
          · rfl
          · cases next <;> rfl
      | leftBracket =>
          show _ = (parseBracket stop fuel target rest >>= _) >>= _
          rw [bind_assoc]
          rfl
      | _ => rfl

/-- One more unit of fuel is one more layer of the bracket's body. -/
theorem parseBracket_succ (target : Query) (ls : List Lexeme) :
    parseBracket stop (fuel + 1) target ls = (reader stop fuel).readBracket stop target ls := by
  rcases ls with _ | ⟨⟨token, offset⟩, rest⟩
  · rfl
  · cases token <;> rfl

theorem parsePrimary_succ (ls : List Lexeme) :
    parsePrimary stop (fuel + 1) ls = (reader stop fuel).readPrimary stop ls := by
  cases ls <;> rfl

theorem parseName_succ (name : String) (offset : Nat) (ls : List Lexeme) :
    parseName stop (fuel + 1) name offset ls = (reader stop fuel).readName name offset ls := rfl

theorem parseArguments_succ (ls : List Lexeme) :
    parseArguments stop (fuel + 1) ls = (reader stop fuel).readArguments stop ls := rfl

/-- Within one more level of calls the parser's functions are their bodies. -/
theorem reader_succ : reader stop (fuel + 1) = (reader stop fuel).deepen stop := by
  rw [reader, Reader.deepen, Reader.mk.injEq]
  exact ⟨funext₂ (parseLevel_succ stop fuel), funext₃ (parseRest_succ stop fuel), rfl,
    funext₂ (parseSuffixes_succ stop fuel), funext₂ (parseBracket_succ stop fuel),
    funext (parsePrimary_succ stop fuel), funext₃ (parseName_succ stop fuel),
    funext (parseArguments_succ stop fuel)⟩

/-- The parser is as many layers of bodies as it has fuel, on one without fuel. -/
theorem reader_eq_iterate : reader stop fuel = (Reader.deepen stop)^[fuel] (reader stop 0) := by
  induction fuel with
  | zero => rfl
  | succ fuel ih => rw [Function.iterate_succ_apply', ← ih, reader_succ]

end Layers

end Query
end Gleaner
