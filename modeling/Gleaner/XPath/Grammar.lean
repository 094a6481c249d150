import Gleaner.XPath.Token
/-!
# The grammar of paths

* `Level.next` orders the levels of operators;
* `parseLevel`, `parseRest`, `parseSteps`, `parsePrimary`, … read an expression from the front of a
  list of tokens and return what is left, or say that no expression begins there;
* `XPath.read` reads a whole text.

A direction without a test of nodes after it counts for nothing. The functions recurse on a bound of
the nesting, which `nestingBound` makes large enough: from one token to the next the recursion
passes each level at most once.
-/

namespace Gleaner
namespace XPath

def Level.next : Level → Level
  | .or => .and
  | .and => .equality
  | .equality => .relation
  | .relation => .sum
  | .sum => .product
  | .product => .negation
  | .negation => .union
  | .union => .union

def Level.operator? (level : Level) : List Token → Option (Operator × List Token)
  | .operator op :: rest => if op.level = level then some (op, rest) else none
  | _ => none

def expect (token : Token) (sign : String) : List Token → Except Misfit (List Token)
  | t :: rest => if t = token then .ok rest else .error (.expected sign)
  | [] => .error (.expected sign)

/-- The axis at the front, or the one that is meant without one. -/
def readAxis : List Token → Axis × List Token
  | .axis axis :: rest => (axis, rest)
  | ts => (.child, ts)

mutual

/-- An expression whose operators bind at least as strongly as the level's. -/
def parseLevel : (fuel : Nat) → Level → List Token → Except Misfit (Option XPath × List Token)
  | 0, _, _ => .error .tooDeep
  | fuel + 1, .negation, ts => do
    let (found, rest) ← parseLevel fuel .union ts
    match found, rest with
    | some e, _ => .ok (some e, rest)
    | none, .operator .sub :: after => do
      let (inner, last) ← parseLevel fuel .negation after
      match inner with
      | some e => .ok (some (.negated e), last)
      | none => .error .missingOperand
    | none, _ => .ok (none, rest)
  | fuel + 1, level, ts => do
    let (left, rest) ←
      if level = .union then parsePath fuel ts else parseLevel fuel level.next ts
    match left with
    | some e => do
      let (whole, last) ← parseRest fuel level e rest
      .ok (some whole, last)
    | none => .ok (none, rest)

/-- The operators of one level and their right operands, after a left operand. -/
def parseRest : (fuel : Nat) → Level → XPath → List Token → Except Misfit (XPath × List Token)
  | 0, _, _, _ => .error .tooDeep
  | fuel + 1, level, left, ts =>
    match level.operator? ts with
    | none => .ok (left, ts)
    | some (op, after) => do
      let (right, rest) ←
        if level = .union then parsePath fuel after else parseLevel fuel level.next after
      match right with
      | some e => parseRest fuel level (.binary op left e) rest
      | none => .error .missingOperand

/-- A path from the root, from the place of evaluation, or from a primary expression. -/
def parsePath : (fuel : Nat) → List Token → Except Misfit (Option XPath × List Token)
  | 0, _ => .error .tooDeep
  | fuel + 1, .slash :: rest => do
    let (found, after) ← parseSteps fuel .root rest
    .ok (some (found.getD .root), after)
  | fuel + 1, ts => do
    let (found, rest) ← parseSteps fuel .here ts
    match found with
    | some e => .ok (some e, rest)
    | none => do
      let (primary, after) ← parsePrimary fuel rest
      match primary with
      | none => .ok (none, after)
      | some e => do
        let (predicates, last) ← parsePredicates fuel after
        let filtered := predicates.foldl .filtered e
        match last with
        | .slash :: more => do
          let (steps, final) ← parseSteps fuel filtered more
          match steps with
          | some whole => .ok (some whole, final)
          | none => .error .trailingSlash
        | _ => .ok (some filtered, last)

/-- The steps of a path after its start; nothing when there is no step. -/
def parseSteps : (fuel : Nat) → XPath → List Token → Except Misfit (Option XPath × List Token)
  | 0, _, _ => .error .tooDeep
  | fuel + 1, start, ts =>
    let (axis, inside) := readAxis ts
    match inside with
    | .test test :: rest => do
      let (predicates, after) ← parsePredicates fuel rest
      let path := XPath.step start axis test predicates
      match after with
      | .slash :: more => do
        let (longer, last) ← parseSteps fuel path more
        match longer with
        | some whole => .ok (some whole, last)
        | none => .error .trailingSlash
      | _ => .ok (some path, after)
    | _ => .ok (none, inside)

def parsePredicates : (fuel : Nat) → List Token → Except Misfit (List XPath × List Token)
  | 0, _ => .error .tooDeep
  | fuel + 1, .leftBracket :: inside => do
    let (found, rest) ← parseLevel fuel .or inside
    match found with
    | none => .error .emptyPredicate
    | some predicate => do
      let after ← expect .rightBracket "]" rest
      let (more, last) ← parsePredicates fuel after
      .ok (predicate :: more, last)
  | _ + 1, ts => .ok ([], ts)

/-- A literal, a number, a variable, a call or an expression in parentheses. -/
def parsePrimary : (fuel : Nat) → List Token → Except Misfit (Option XPath × List Token)
  | 0, _ => .error .tooDeep
  | _ + 1, .variable name :: rest => .ok (some (.variable name), rest)
  | _ + 1, .number x :: rest => .ok (some (.number x), rest)
  | _ + 1, .literal s :: rest => .ok (some (.literal s), rest)
  | fuel + 1, .function name :: rest => do
    let inside ← expect .leftParen "(" rest
    let (arguments, after) ← parseArguments fuel true inside
    .ok (some (.call name arguments), after)
  | fuel + 1, .leftParen :: inside => do
    let (found, rest) ← parseLevel fuel .or inside
    let after ← expect .rightParen ")" rest
    .ok (found, after)
  | _ + 1, ts => .ok (none, ts)

/-- The arguments of a call with the closing parenthesis; `first` before the first of them. -/
def parseArguments :
    (fuel : Nat) → (first : Bool) → List Token → Except Misfit (List XPath × List Token)
  | 0, _, _ => .error .tooDeep
  | fuel + 1, first, ts =>
    match ts with
    | .rightParen :: rest => .ok ([], rest)
    | _ => do
      let inside ← if first then .ok ts else expect .comma "," ts
      let (found, after) ← parseLevel fuel .or inside
      match found with
      | none => .error .missingArgument
      | some argument => do
        let (more, last) ← parseArguments fuel false after
        .ok (argument :: more, last)

end

def nestingBound (ts : List Token) : Nat :=
  16 * (ts.length + 1)

def ofTokens (ts : List Token) : Except Misfit XPath := do
  let (found, rest) ← parseLevel (nestingBound ts) .or ts
  match found, rest with
  | some e, [] => .ok e
  | none, [] => .error .empty
  | _, _ :: _ => .error .unexpectedRest

def read (source : String) : Except Error XPath :=
  (tokens source.toList >>= ofTokens).mapError (.invalid source)

end XPath
end Gleaner
