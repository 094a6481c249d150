import Gleaner.Pattern.Basic
import Gleaner.Binary64.Decimal
import Gleaner.Text.Cut
/-!
# Reading patterns

`Pattern.read?` reads the text of a regular expression; what is no such expression is refused.

* `Flags` are the modes that a pattern switches on and off as it goes;
* `readEscape?` and `readClassItems?` read escape sequences and bracketed sets;
* `readAlternatives?` reads an expression up to the end of its group.

The recursion is bounded by the number of characters that are left.
-/

namespace Gleaner
namespace Pattern

structure Flags where
  caseless : Bool := false
  -- The anchors match at line ends too.
  multiLine : Bool := false
  -- The point matches line ends too.
  dotAll : Bool := false
  -- A carriage return belongs to a line end.
  returns : Bool := false
  -- Space and comments are skipped.
  extended : Bool := false
  -- The named classes are those of Unicode.
  unicode : Bool := true
  -- A repetition followed by a question mark is the greedy one.
  swapGreed : Bool := false
  deriving DecidableEq, Repr

def Flags.set? (flags : Flags) (c : Char) (value : Bool) : Option Flags :=
  match c with
  | 'i' => some { flags with caseless := value }
  | 'm' => some { flags with multiLine := value }
  | 's' => some { flags with dotAll := value }
  | 'R' => some { flags with returns := value }
  | 'x' => some { flags with extended := value }
  | 'u' => some { flags with unicode := value }
  | 'U' => some { flags with swapGreed := value }
  | _ => none

def Flags.folded (flags : Flags) (s : CharSet) : CharSet :=
  if flags.caseless then .anyCase s else s

/-- Skip what does not count in the extended mode: space, and comments up to the line end. -/
def Flags.skip (flags : Flags) : (fuel : Nat) → List Char → List Char
  | 0, cs => cs
  | fuel + 1, cs =>
    if flags.extended then
      match Text.trimStart cs with
      | '#' :: rest => flags.skip fuel (rest.dropWhile (· != '\n'))
      | rest => rest
    else cs

/-- The modes set by a group's letters; a hyphen, once, begins those that are switched off. -/
def readFlags? (flags : Flags) (value : Bool) (seen : List Char) :
    List Char → Option (Flags × List Char)
  | [] => none
  | c :: rest =>
    if c = ':' ∨ c = ')' then
      if seen.head? = some '-' then none else some (flags, c :: rest)
    else if c = '-' then
      if value then readFlags? flags false ('-' :: seen) rest else none
    else if c ∈ seen then none
    else
      match flags.set? c value with
      | some flags => readFlags? flags value (c :: seen) rest
      | none => none

/-! ## Escapes -/

inductive Escape where
  | char (c : Char)
  | set (s : CharSet)
  | assertion (a : Assertion)

/-- A character by its code point: in braces, or with exactly `width` digits. -/
def readCodePoint? (width : Nat) (cs : List Char) : Option (Escape × List Char) :=
  match cs with
  | '\x7b' :: rest =>
    let digits := rest.takeWhile (· != '\x7d')
    if digits.isEmpty || digits.length == rest.length then none
    else do
      let c ← Text.charOf? (← Text.numeral? 16 digits)
      some (.char c, rest.drop (digits.length + 1))
  | cs =>
    if cs.length < width then none
    else do
      let c ← Text.charOf? (← Text.numeral? 16 (cs.take width))
      some (.char c, cs.drop width)

def namedSet? (name : List Char) : Option CharSet :=
  let plain := String.ofList ((name.filter fun c => c != ' ' && c != '-' && c != '_').map
    Text.asciiLowerChar)
  if plain = "any" then some .all
  else if plain = "ascii" then some (.range 0 127)
  else (Text.Property.ofName? name).map .property

/-- A property: one letter, or a name in braces, which a caret negates. -/
def readProperty? (flags : Flags) (negated : Bool) (cs : List Char) :
    Option (Escape × List Char) := do
  let (name, rest) ←
    match cs with
    | '\x7b' :: rest =>
      let name := rest.takeWhile (· != '\x7d')
      if name.length == rest.length then none
      else some (name, rest.drop (name.length + 1))
    | c :: rest => some ([c], rest)
    | [] => none
  let (negated, name) :=
    match name with
    | '^' :: name => (!negated, name)
    | name => (negated, name)
  let s ← namedSet? name
  let s := flags.folded s
  some (.set (if negated then .complement s else s), rest)

/-- A class named by a letter; in upper case it is the complement. -/
def letterSet (flags : Flags) (c : Char) : Option CharSet :=
  let digit := if flags.unicode then .property .decimalDigit else CharSet.asciiDigit
  let space := if flags.unicode then .property .space else CharSet.asciiSpace
  let word := if flags.unicode then CharSet.word else CharSet.asciiWord
  match c with
  | 'd' => some digit
  | 's' => some space
  | 'w' => some word
  | 'D' => some (.complement digit)
  | 'S' => some (.complement space)
  | 'W' => some (.complement word)
  | _ => none

def controlChar? : Char → Option Char
  | 'a' => some '\x07'
  | 'f' => some '\x0c'
  | 't' => some '\t'
  | 'n' => some '\n'
  | 'r' => some '\r'
  | 'v' => some '\x0b'
  | _ => none

def letterAssertion? (flags : Flags) : Char → Option Assertion
  | 'A' => some .textStart
  | 'z' => some .textEnd
  | 'b' => some (.wordBoundary flags.unicode)
  | 'B' => some (.notWordBoundary flags.unicode)
  | '<' => some (.wordStart flags.unicode)
  | '>' => some (.wordEnd flags.unicode)
  | _ => none

def namedBoundary? (flags : Flags) (name : List Char) : Option Assertion :=
  match String.ofList name with
  | "start" => some (.wordStart flags.unicode)
  | "end" => some (.wordEnd flags.unicode)
  | "start-half" => some (.wordStartHalf flags.unicode)
  | "end-half" => some (.wordEndHalf flags.unicode)
  | _ => none

def isEscapable (c : Char) : Bool :=
  c.toNat < 128 && !c.isAlphanum && c != '<' && c != '>'

def readEscape? (flags : Flags) : List Char → Option (Escape × List Char)
  | [] => none
  | c :: rest =>
    if c = 'x' then readCodePoint? 2 rest
    else if c = 'u' then readCodePoint? 4 rest
    else if c = 'U' then readCodePoint? 8 rest
    else if c = 'p' then readProperty? flags false rest
    else if c = 'P' then readProperty? flags true rest
    else if isEscapable c then some (.char c, rest)
    else
      match controlChar? c, letterSet flags c, letterAssertion? flags c with
      | some d, _, _ => some (.char d, rest)
      | none, some s, _ => some (.set s, rest)
      | none, none, some a =>
        match c, rest with
        | 'b', '\x7b' :: more =>
          let name := more.takeWhile (· != '\x7d')
          match namedBoundary? flags name with
          | some b => some (.assertion b, more.drop (name.length + 1))
          | none =>
            if (name.head?.map Char.isDigit).getD false then some (.assertion a, rest) else none
        | _, _ => some (.assertion a, rest)
      | none, none, none => none

/-! ## Bracketed sets -/

def asciiClass? (name : String) : Option CharSet :=
  match name with
  | "alnum" => some (.ofRanges [('0', '9'), ('A', 'Z'), ('a', 'z')])
  | "alpha" => some (.ofRanges [('A', 'Z'), ('a', 'z')])
  | "ascii" => some (.range 0 127)
  | "blank" => some (.ofRanges [('\t', '\t'), (' ', ' ')])
  | "cntrl" => some (.union (.range 0 31) (.range 127 127))
  | "digit" => some CharSet.asciiDigit
  | "graph" => some (.ofRanges [('!', '~')])
  | "lower" => some (.ofRanges [('a', 'z')])
  | "print" => some (.ofRanges [(' ', '~')])
  | "punct" => some (.ofRanges [('!', '/'), (':', '@'), ('[', '\x60'), ('\x7b', '~')])
  | "space" => some CharSet.asciiSpace
  | "upper" => some (.ofRanges [('A', 'Z')])
  | "word" => some CharSet.asciiWord
  | "xdigit" => some (.ofRanges [('0', '9'), ('A', 'F'), ('a', 'f')])
  | _ => none

/-- A class name between colons, after the opening bracket and up to the closing one. -/
def readAsciiClass? (flags : Flags) (cs : List Char) : Option (CharSet × List Char) :=
  match cs with
  | ':' :: rest =>
    let (negated, rest) :=
      match rest with
      | '^' :: rest => (true, rest)
      | rest => (false, rest)
    let name := rest.takeWhile (· != ':')
    match rest.drop name.length with
    | ':' :: ']' :: after =>
      (asciiClass? (String.ofList name)).map fun s =>
        let s := flags.folded s
        (if negated then .complement s else s, after)
    | _ => none
  | _ => none

inductive SetOperator where
  | inter | minus | oneOf

def SetOperator.build : SetOperator → CharSet → CharSet → CharSet
  | .inter => .inter
  | .minus => .minus
  | .oneOf => .oneOf

def combined (left : Option (SetOperator × CharSet)) (items : List CharSet) : CharSet :=
  let right := CharSet.unionAll items.reverse
  match left with
  | none => right
  | some (op, s) => op.build s right

def readClassAtom? (flags : Flags) : List Char → Option (Escape × List Char)
  | '\\' :: rest =>
    match readEscape? flags rest with
    | some (.assertion _, _) => none
    | result => result
  | c :: rest => some (.char c, rest)
  | [] => none

def readClassItem? (flags : Flags) (cs : List Char) : Option (CharSet × List Char) := do
  let (first, rest) ← readClassAtom? flags cs
  let rest := flags.skip rest.length rest
  let alone : CharSet :=
    match first with
    | .char c => flags.folded (.single c)
    | .set s => s
    | .assertion _ => .none
  match rest with
  | '-' :: more =>
    match flags.skip more.length more with
    | ']' :: _ | '-' :: _ => some (alone, rest)
    | more => do
      let (last, after) ← readClassAtom? flags more
      match first, last with
      | .char a, .char b =>
        if a ≤ b then some (flags.folded (.range a.toNat b.toNat), after) else none
      | _, _ => none
  | [] => none
  | rest => some (alone, rest)

mutual

/-- A bracketed set after its opening bracket, with its closing bracket. -/
def readClass? : (fuel : Nat) → Flags → List Char → Option (CharSet × List Char)
  | 0, _, _ => none
  | fuel + 1, flags, cs => do
    let cs := flags.skip cs.length cs
    let (negated, cs) :=
      match cs with
      | '^' :: rest => (true, flags.skip rest.length rest)
      | cs => (false, cs)
    let hyphens := (cs.takeWhile (· == '-')).length
    let cs := cs.drop hyphens
    let items := List.replicate (min hyphens 1) (CharSet.single '-')
    let (items, cs) :=
      match items, cs with
      | [], ']' :: rest => ([CharSet.single ']'], rest)
      | items, cs => (items, cs)
    let (s, rest) ← readClassItems? fuel flags none items cs
    some (if negated then .complement s else s, rest)

/-- The items of a bracketed set, after the set to the left of the last operator. -/
def readClassItems? : (fuel : Nat) → Flags → Option (SetOperator × CharSet) → List CharSet →
    List Char → Option (CharSet × List Char)
  | 0, _, _, _, _ => none
  | fuel + 1, flags, left, items, cs =>
    match flags.skip cs.length cs with
    | [] => none
    | ']' :: rest => some (combined left items, rest)
    | '[' :: rest =>
      match readAsciiClass? flags rest with
      | some (s, after) => readClassItems? fuel flags left (s :: items) after
      | none => do
        let (s, after) ← readClass? fuel flags rest
        readClassItems? fuel flags left (s :: items) after
    | '&' :: '&' :: rest =>
      readClassItems? fuel flags (some (.inter, combined left items)) [] rest
    | '-' :: '-' :: rest =>
      readClassItems? fuel flags (some (.minus, combined left items)) [] rest
    | '~' :: '~' :: rest =>
      readClassItems? fuel flags (some (.oneOf, combined left items)) [] rest
    | cs => do
      let (s, after) ← readClassItem? flags cs
      readClassItems? fuel flags left (s :: items) after

end

/-! ## Repetitions -/

def countBound : Nat :=
  2 ^ 32

def readCount? (cs : List Char) : Option (Nat × List Char) :=
  let cs := Text.trimStart cs
  let digits := cs.takeWhile Char.isDigit
  let n := Binary64.digitsValue digits
  if digits.isEmpty || countBound ≤ n then none
  else some (n, Text.trimStart (cs.drop digits.length))

/-- A counted repetition after its opening brace, with its closing brace. -/
def readCounts? (cs : List Char) : Option (Nat × Option Nat × List Char) := do
  let (least, rest) ← readCount? cs
  match rest with
  | '\x7d' :: after => some (least, some least, after)
  | ',' :: more =>
    match Text.trimStart more with
    | '\x7d' :: after => some (least, none, after)
    | more => do
      let (most, rest) ← readCount? more
      match rest with
      | '\x7d' :: after => if least ≤ most then some (least, some most, after) else none
      | _ => none
  | _ => none

/-- A repetition operator at the front of the text, if there is one. -/
def readRepetition? (cs : List Char) : Option (Nat × Option Nat × List Char) :=
  match cs with
  | '*' :: rest => some (0, none, rest)
  | '+' :: rest => some (1, none, rest)
  | '?' :: rest => some (0, some 1, rest)
  | '\x7b' :: rest => readCounts? rest
  | _ => none

def beginsRepetition (c : Char) : Bool :=
  c == '*' || c == '+' || c == '?' || c == '\x7b'

/-! ## Expressions -/

/-- The state of reading: the modes, and the names of groups so far. -/
structure State where
  flags : Flags
  names : List (List Char)

/-- The pattern of the items of a sequence, in reverse; switches of modes match the empty text. -/
def sequence (items : List (Option Pattern)) : Pattern :=
  items.foldl
    (fun after item =>
      match item, after with
      | none, after => after
      | some p, .empty => p
      | some p, after => .seq p after)
    .empty

def readGroupName? (names : List (List Char)) (cs : List Char) : Option (List Char × List Char) :=
  let name := cs.takeWhile (· != '>')
  let isStart := fun c : Char => c == '_' || Text.Property.letter.holds c
  let isMore := fun c : Char =>
    isStart c || Text.Property.numeral.holds c || c == '.' || c == '[' || c == ']'
  match name with
  | [] => none
  | c :: more =>
    if isStart c && more.all isMore && !names.contains name && name.length < cs.length then
      some (name, cs.drop (name.length + 1))
    else none

def dot (flags : Flags) : Pattern :=
  if flags.dotAll then .one .all
  else if flags.returns then .one (.complement (.union (.single '\n') (.single '\r')))
  else .one (.complement (.single '\n'))

def startAnchor (flags : Flags) : Assertion :=
  if flags.multiLine then (if flags.returns then .returnLineStart else .lineStart) else .textStart

def endAnchor (flags : Flags) : Assertion :=
  if flags.multiLine then (if flags.returns then .returnLineEnd else .lineEnd) else .textEnd

mutual

def readAlternatives? : (fuel : Nat) → State → List Char → Option (Pattern × State × List Char)
  | 0, _, _ => none
  | fuel + 1, state, cs => do
    let (p, state, rest) ← readSequence? fuel state [] cs
    match rest with
    | '|' :: more => do
      let (q, state, rest) ← readAlternatives? fuel state more
      some (.either p q, state, rest)
    | rest => some (p, state, rest)

def readSequence? : (fuel : Nat) → State → List (Option Pattern) → List Char →
    Option (Pattern × State × List Char)
  | 0, _, _, _ => none
  | fuel + 1, state, items, cs =>
    match state.flags.skip cs.length cs with
    | [] => some (sequence items, state, [])
    | c :: rest =>
      if c = '|' ∨ c = ')' then some (sequence items, state, c :: rest)
      else if beginsRepetition c then
        match items with
        | some p :: before => do
          let (least, most, after) ← readRepetition? (c :: rest)
          let after := (Text.dropPrefix? ['?'] (state.flags.skip after.length after)).getD after
          readSequence? fuel state (some (.times p least most) :: before) after
        | _ => none
      else if c = '(' then do
        let (item, state, after) ← readGroup? fuel state rest
        readSequence? fuel state (item :: items) after
      else if c = '[' then do
        let (s, after) ← readClass? (rest.length + 1) state.flags rest
        readSequence? fuel state (some (.one s) :: items) after
      else if c = '\\' then do
        let (e, after) ← readEscape? state.flags rest
        let p : Pattern :=
          match e with
          | .char d => .one (state.flags.folded (.single d))
          | .set s => .one s
          | .assertion a => .assertion a
        readSequence? fuel state (some p :: items) after
      else
        let p : Pattern :=
          if c = '.' then dot state.flags
          else if c = '^' then .assertion (startAnchor state.flags)
          else if c = '$' then .assertion (endAnchor state.flags)
          else .one (state.flags.folded (.single c))
        readSequence? fuel state (some p :: items) rest

/-- A group after its opening parenthesis, with its closing one; nothing for a switch of modes. -/
def readGroup? : (fuel : Nat) → State → List Char → Option (Option Pattern × State × List Char)
  | 0, _, _ => none
  | fuel + 1, state, cs =>
    match state.flags.skip cs.length cs with
    | '?' :: 'P' :: '<' :: rest => do
      let (name, rest) ← readGroupName? state.names rest
      readInside? fuel { state with names := name :: state.names } state.flags rest
    | '?' :: '<' :: rest =>
      if rest.head? = some '=' ∨ rest.head? = some '!' then none
      else do
        let (name, rest) ← readGroupName? state.names rest
        readInside? fuel { state with names := name :: state.names } state.flags rest
    | '?' :: ')' :: _ => none
    | '?' :: rest => do
      let (flags, rest) ← readFlags? state.flags true [] rest
      match rest with
      | ')' :: after => some (none, { state with flags := flags }, after)
      | _ :: inside => readInside? fuel { state with flags := flags } state.flags inside
      | [] => none
    | inside => readInside? fuel state state.flags inside

/-- The inside of a group with its closing parenthesis; afterwards the modes are `outer` again. -/
def readInside? : (fuel : Nat) → State → (outer : Flags) → List Char →
    Option (Option Pattern × State × List Char)
  | 0, _, _, _ => none
  | fuel + 1, state, outer, cs => do
    let (p, state, rest) ← readAlternatives? fuel state cs
    match rest with
    | ')' :: after => some (some p, { state with flags := outer }, after)
    | _ => none

end

def sizeBound : Nat :=
  300000

def read? (source : String) : Option Pattern :=
  let cs := source.toList
  match readAlternatives? (4 * cs.length + 4) ⟨{}, []⟩ cs with
  | some (p, _, []) => if p.size ≤ sizeBound then some p else none
  | _ => none

end Pattern
end Gleaner
