import Gleaner.Yaml.Cursor
import Gleaner.Json.Reader
/-!
# YAML scalars

The ways to write a string: plain, in single or double quotes, and as a block of lines.

* `readPlain?` reads a plain scalar, which may go on over indented lines;
* `readQuoted?` reads a quoted one, `readBlockText?` a block scalar;
* `Fold` collects a text of several lines: a single line end becomes a space, of several all but the
  first remain.
-/

namespace Gleaner
namespace Yaml

/-- A text that is being collected, in reverse, and the space since its last character. -/
structure Fold where
  text : List Char
  -- The blanks since the last character, in reverse; none after a line end.
  blanks : List Char
  -- Whether there was a line end since the last character.
  broken : Bool
  -- Whether that line end was escaped, so that nothing remains of it.
  escaped : Bool
  -- The line ends after that one.
  breaks : Nat

namespace Fold

def start : Fold :=
  ⟨[], [], false, false, 0⟩

def joined (f : Fold) : List Char :=
  if f.broken then
    (if f.breaks = 0 ∧ !f.escaped then [' '] else List.replicate f.breaks '\n') ++ f.text
  else f.blanks ++ f.text

def push (f : Fold) (c : Char) : Fold :=
  ⟨c :: f.joined, [], false, false, 0⟩

def space (f : Fold) (c : Char) : Fold :=
  if c = '\n' then
    if f.broken then { f with breaks := f.breaks + 1 } else { f with blanks := [], broken := true }
  else if f.broken then f
  else { f with blanks := c :: f.blanks }

/-- Pass a line end that is escaped: it joins the lines without a space. -/
def escapedBreak (f : Fold) : Fold :=
  ⟨f.joined, [], true, true, 0⟩

end Fold

/-! ## Plain scalars -/

def isFlowIndicator (c : Char) : Bool :=
  c == ',' || c == '[' || c == ']' || c == '\x7b' || c == '\x7d'

def isIndicator (c : Char) : Bool :=
  "-?:,[]\x7b\x7d#&*!|>'\"%@\x60".toList.contains c

def beginsPlain (flow : Bool) : List Char → Bool
  | [] => false
  | c :: rest =>
    if isBlank c || c == '\n' then false
    else if c == '-' then !(match rest with
      | d :: _ => isBlank d
      | [] => false)
    else if c == '?' || c == ':' then !flow && !atSpace rest
    else !isIndicator c

/--
The rest of a plain scalar. It ends before a colon with space after it, a comment, a document mark,
a line that is not indented enough, and inside brackets before their indicators.
-/
def readPlainFrom? (flow : Bool) (indent : Int) : (fuel : Nat) → Fold → Cursor →
    Option (List Char × Cursor)
  | 0, _, _ => none
  | fuel + 1, f, s =>
    match s.rest with
    | [] => some (f.text.reverse, s)
    | c :: rest =>
      if isBlank c then
        if c = '\t' ∧ f.broken ∧ (s.column : Int) ≤ indent then none
        else readPlainFrom? flow indent fuel (f.space c) s.step
      else if c = '\n' then readPlainFrom? flow indent fuel (f.space c) s.step
      else if f.broken && ((!flow && (s.column : Int) ≤ indent) || s.atMarker) then
        some (f.text.reverse, s)
      else if c = '#' ∧ (f.broken ∨ !f.blanks.isEmpty) then some (f.text.reverse, s)
      else if c = ':' ∧ atSpace rest then some (f.text.reverse, s)
      else if flow && c == ':' && (match rest with
        | d :: _ => isFlowIndicator d || d == '?'
        | [] => false) then none
      else if flow && isFlowIndicator c then some (f.text.reverse, s)
      else readPlainFrom? flow indent fuel (f.push c) s.step

def readPlain? (flow : Bool) (indent : Int) (s : Cursor) : Option (List Char × Cursor) :=
  readPlainFrom? flow indent (s.rest.length + 1) .start s

/-! ## Quoted scalars -/

def escapeLetter? (c : Char) : Option Char :=
  match c with
  | '0' => some '\x00'
  | 'a' => some '\x07'
  | 'b' => some '\x08'
  | 't' | '\t' => some '\t'
  | 'n' => some '\n'
  | 'v' => some '\x0b'
  | 'f' => some '\x0c'
  | 'r' => some '\r'
  | 'e' => some '\x1b'
  | ' ' => some ' '
  | '"' => some '"'
  | '/' => some '/'
  | '\\' => some '\\'
  | 'N' => some '\u0085'
  | '_' => some '\u00a0'
  | 'L' => some '\u2028'
  | 'P' => some '\u2029'
  | _ => none

def escapeWidth? : Char → Option Nat
  | 'x' => some 2
  | 'u' => some 4
  | 'U' => some 8
  | _ => none

/-- The character of an escape sequence after its backslash, and how long the sequence is. -/
def readEscape? : List Char → Option (Char × Nat)
  | [] => none
  | c :: rest =>
    match escapeLetter? c, escapeWidth? c with
    | some d, _ => some (d, 1)
    | none, some width => do
      let digits := rest.take width
      if digits.length ≠ width then none
      else
        let c ← Text.charOf? (← Text.numeral? 16 digits)
        some (c, width + 1)
    | none, none => none

/-- The rest of a quoted scalar after its opening quote, with the closing one. -/
def readQuotedFrom? (quote : Char) : (fuel : Nat) → Fold → Cursor → Option (List Char × Cursor)
  | 0, _, _ => none
  | fuel + 1, f, s =>
    if s.atMarker then none
    else
      match s.rest with
      | [] => none
      | c :: rest =>
        if isBlank c || c == '\n' then readQuotedFrom? quote fuel (f.space c) s.step
        else if c = quote then
          if quote = '\'' ∧ rest.head? = some '\'' then
            readQuotedFrom? quote fuel (f.push '\'') (s.steps 2)
          else some (f.joined.reverse, s.step)
        else if c = '\\' ∧ quote = '"' then
          if rest.head? = some '\n' then
            readQuotedFrom? quote fuel f.escapedBreak (s.steps 2)
          else
            match readEscape? rest with
            | some (d, n) => readQuotedFrom? quote fuel (f.push d) (s.steps (n + 1))
            | none => none
        else readQuotedFrom? quote fuel (f.push c) s.step

def readQuoted? (s : Cursor) : Option (List Char × Cursor) :=
  match s.rest with
  | c :: _ =>
    if c = '"' ∨ c = '\'' then readQuotedFrom? c (s.rest.length + 1) .start s.step else none
  | [] => none

/-! ## Block scalars -/

inductive Chomping where
  | strip | clip | keep
  deriving DecidableEq

/-- The header of a block scalar: what remains of its last line ends, and its own indentation. -/
structure BlockHeader where
  chomping : Chomping := .clip
  increment : Option Nat := none

def readHeader (h : BlockHeader) : (fuel : Nat) → List Char → BlockHeader × List Char
  | 0, cs => (h, cs)
  | fuel + 1, c :: rest =>
    if c = '+' then readHeader { h with chomping := .keep } fuel rest
    else if c = '-' then readHeader { h with chomping := .strip } fuel rest
    else if '1' ≤ c ∧ c ≤ '9' then
      readHeader { h with increment := some (c.toNat - '0'.toNat) } fuel rest
    else (h, c :: rest)
  | _, [] => (h, [])

/-- Whether a header is written properly: one sign and one digit at most. -/
def isHeader (indicators : List Char) : Bool :=
  indicators.length ≤ 2 && (indicators.filter Char.isDigit).length ≤ 1 &&
    (indicators.filter fun c => !c.isDigit).length ≤ 1

/--
Pass the empty lines before a line of a block: how many there were, how far the deepest of their
indentations and the next line's reached, and the position in the next line, up to `indent`.
-/
def passEmptyLines? (indent : Option Nat) : (fuel : Nat) → (count deepest : Nat) → Cursor →
    Option (Nat × Nat × Cursor)
  | 0, _, _, _ => none
  | fuel + 1, count, deepest, s =>
    let spaces := (s.rest.takeWhile (· == ' ')).length
    let spaces :=
      match indent with
      | none => spaces
      | some n => min spaces (n - s.column)
    let s := s.steps spaces
    let deepest := max deepest s.column
    let isShort :=
      match indent with
      | none => true
      | some n => s.column < n
    match s.rest with
    | '\t' :: _ => if isShort then none else some (count, deepest, s)
    | '\n' :: _ => passEmptyLines? indent fuel (count + 1) deepest s.step
    | _ => some (count, deepest, s)

/-- The text of a block scalar that is being collected, in reverse. -/
structure Block where
  text : List Char
  -- Whether the last line ended in a line end.
  broken : Bool
  -- The empty lines after it.
  breaks : Nat
  -- Whether the last line began with a blank.
  indented : Bool

/-- The text with the line ends before a further line, folded unless a neighbour is indented. -/
def Block.joined (literal indented : Bool) (b : Block) : List Char :=
  let first :=
    if !b.broken then []
    else if !literal && !b.indented && !indented then (if b.breaks = 0 then [' '] else [])
    else ['\n']
  List.replicate b.breaks '\n' ++ first ++ b.text

def readLines? (literal : Bool) (indent : Nat) : (fuel : Nat) → Block → Cursor →
    Option (Block × Cursor)
  | 0, _, _ => none
  | fuel + 1, b, s =>
    if s.column = indent ∧ !s.rest.isEmpty then
      let line := s.rest.takeWhile (· != '\n')
      let indented := (line.head?.map isBlank).getD false
      let text := line.reverse ++ b.joined literal indented
      let s := s.steps line.length
      let broken := !s.rest.isEmpty
      match passEmptyLines? (some indent) (s.rest.length + 2) 0 0 s.step with
      | some (breaks, _, s) => readLines? literal indent fuel ⟨text, broken, breaks, indented⟩ s
      | none => none
    else some (b, s)

/-- A block scalar, from its header on, inside a block of the given indentation. -/
def readBlockText? (parent : Int) (s : Cursor) : Option (List Char × Cursor) := do
  let literal := s.rest.head? == some '|'
  let s := s.step
  let (header, _) := readHeader {} 2 s.rest
  let indicators := s.rest.takeWhile fun c => c == '+' || c == '-' || c.isDigit
  if !isHeader indicators || indicators.contains '0' then none
  else
    let s := s.steps indicators.length
    let afterBlanks := s.passBlanks
    let s :=
      match afterBlanks.rest with
      | '#' :: _ => afterBlanks.passWhile (· != '\n')
      | _ => afterBlanks
    if !(s.rest.isEmpty || s.rest.head? == some '\n') then none
    else
      let s := s.step
      let known := header.increment.map fun n => (max parent 0).toNat + n
      let (breaks, deepest, s) ← passEmptyLines? known (s.rest.length + 2) 0 0 s
      let indent := known.getD (max deepest (max (parent + 1).toNat 1))
      let (b, s) ← readLines? literal indent (s.rest.length + 2) ⟨[], false, breaks, false⟩ s
      let ending := if header.chomping ≠ .strip ∧ b.broken then ['\n'] else []
      let more := if header.chomping = .keep then List.replicate b.breaks '\n' else []
      some ((more ++ ending ++ b.text).reverse, s)

end Yaml
end Gleaner
