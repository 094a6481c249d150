import Gleaner.Text.Cut
/-!
# Positions in YAML text

* `Yaml.Node` is a document tree: scalars with their text, sequences and mappings;
* `Cursor` is a position in a text, with its line and column and the anchors defined so far;
* `Cursor.skip` passes blanks, comments and line ends up to the next token;
* `normalizeBreaks?` checks the characters of a text and writes every line end as a line feed.
-/

namespace Gleaner
namespace Yaml

inductive Node where
  -- A scalar, with its text; a plain one stands without quotes and may mean more than a string.
  | scalar (text : String) (isPlain : Bool) (tag : Option String)
  | sequence (items : List Node) (tag : Option String)
  | mapping (entries : List (Node × Node)) (tag : Option String)
  deriving Repr, Inhabited

def Node.empty : Node :=
  .scalar "" true none

def Node.tagged (tag : Option String) (node : Node) : Node :=
  match tag, node with
  | none, node => node
  | some t, .scalar text isPlain _ => .scalar text isPlain (some t)
  | some t, .sequence items _ => .sequence items (some t)
  | some t, .mapping entries _ => .mapping entries (some t)

def isAllowed (c : Char) : Bool :=
  let n := c.toNat
  n == 0x09 || n == 0x0A || n == 0x0D || (0x20 ≤ n && n ≤ 0x7E) || n == 0x85 ||
    (0xA0 ≤ n && n ≤ 0xFFFD && n != 0xFEFF) || 0x10000 ≤ n

def unifyBreaks : List Char → List Char
  | '\r' :: '\n' :: rest => '\n' :: unifyBreaks rest
  | c :: rest => (if c = '\r' ∨ c.toNat = 0x85 then '\n' else c) :: unifyBreaks rest
  | [] => []

/-- The text without a byte order mark and with unified line ends, if all characters are allowed. -/
def normalizeBreaks? (cs : List Char) : Option (List Char) :=
  let cs :=
    match cs with
    | c :: rest => if c.toNat = 0xFEFF then rest else c :: rest
    | [] => []
  if cs.all isAllowed then some (unifyBreaks cs) else none

structure Cursor where
  rest : List Char
  line : Nat
  column : Nat
  -- The anchors so far, the latest first.
  anchors : List (String × Node)

def isBlank (c : Char) : Bool :=
  c == ' ' || c == '\t'

/-- Whether a text is at its end, or goes on with a blank or a line end. -/
def atSpace : List Char → Bool
  | [] => true
  | c :: _ => isBlank c || c == '\n'

namespace Cursor

def start (cs : List Char) : Cursor :=
  ⟨cs, 0, 0, []⟩

def step (s : Cursor) : Cursor :=
  match s.rest with
  | [] => s
  | c :: rest =>
    if c = '\n' then { s with rest, line := s.line + 1, column := 0 }
    else { s with rest, column := s.column + 1 }

/-- Pass `n` characters. -/
def steps (s : Cursor) : (n : Nat) → Cursor
  | 0 => s
  | n + 1 => steps s.step n

/-- Pass the characters at the front that meet a condition; none of them is a line end. -/
def passWhile (s : Cursor) (p : Char → Bool) : Cursor :=
  let n := (s.rest.takeWhile p).length
  { s with rest := s.rest.drop n, column := s.column + n }

def passBlanks (s : Cursor) : Cursor :=
  s.passWhile isBlank

/--
Pass blanks, comments and line ends. Tabs count as blanks only where `tabs` says so, which after a
line end is `tabsLater`.
-/
def skipFrom (tabsLater : Bool) : (fuel : Nat) → (tabs : Bool) → Cursor → Cursor
  | 0, _, s => s
  | fuel + 1, tabs, s =>
    let s := s.passWhile fun c => c == ' ' || (tabs && c == '\t')
    let s :=
      match s.rest with
      | '#' :: _ => s.passWhile (· != '\n')
      | _ => s
    match s.rest with
    | '\n' :: _ => skipFrom tabsLater fuel tabsLater s.step
    | _ => s

/-- Go to the next token of a block: tabs count as blanks on the same line only, and if allowed. -/
def skip (s : Cursor) (tabs : Bool) : Cursor :=
  skipFrom false (s.rest.length + 1) tabs s

def skipInside (s : Cursor) : Cursor :=
  skipFrom true (s.rest.length + 1) true s

def atWord (s : Cursor) (word : List Char) : Bool :=
  match Text.dropPrefix? word s.rest with
  | some after => atSpace after
  | none => false

def atMarker (s : Cursor) : Bool :=
  s.column == 0 && (s.atWord ['-', '-', '-'] || s.atWord ['.', '.', '.'])

def atEnd (s : Cursor) : Bool :=
  s.rest.isEmpty || s.atMarker

def atDash (s : Cursor) : Bool :=
  s.atWord ['-']

def atQuestion (s : Cursor) : Bool :=
  s.atWord ['?']

def atColon (s : Cursor) : Bool :=
  s.atWord [':']

end Cursor
end Yaml
end Gleaner
