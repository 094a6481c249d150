import Gleaner.Text.Cut
import Gleaner.Text.Blank
/-!
# Locations in specification text

A path such as `mappings[1].expr` is located at the line and column of its key, found by the
indentation of lines. Values inside braces and brackets are located at the key or item around them.

* `Locator.ofText` scans a text, `Locator.locate?` looks a path up;
* `splitKey?` divides a line into key and value;
* `Progress` is the state of the scan: the enclosing keys and items, and what was found.
-/

namespace Gleaner

/-- A line and a column, counted from one. -/
structure Location where
  line : Nat
  column : Nat
  deriving DecidableEq, Repr

structure Locator where
  locations : List (String × Location)
  deriving Repr

namespace Locator

structure Frame where
  indent : Nat
  path : List Char
  isItem : Bool
  deriving Repr

structure Progress where
  -- What was found, the latest first.
  found : List (String × Location)
  -- The enclosing keys and items, the innermost first.
  stack : List Frame
  -- How many items each sequence has so far.
  counts : List (List Char × Nat)
  -- The indentation of the key whose block of text is being passed.
  block : Option Nat

def Progress.start : Progress :=
  ⟨[], [], [], none⟩

def Progress.enter (o : Progress) (path : List Char) (location : Location) : Progress :=
  let name := String.ofList path
  if o.found.any fun (p, _) => p == name then o else { o with found := (name, location) :: o.found }

/-- The first colon that a blank or the line end follows: what is before it and what is after. -/
def cutAtColon? : List Char → Option (List Char × List Char)
  | [] => none
  | ':' :: rest =>
    match rest with
    | [] => some ([], [])
    | ' ' :: _ => some ([], rest)
    | _ => (cutAtColon? rest).map fun (before, after) => (':' :: before, after)
  | c :: rest => (cutAtColon? rest).map fun (before, after) => (c :: before, after)

/-- The key and the value of a line; a key may stand in quotes. -/
def splitKey? (text : List Char) : Option (List Char × List Char) :=
  match text with
  | '\x7b' :: _ | '[' :: _ => none
  | c :: rest =>
    if c = '"' ∨ c = '\'' then
      match Text.cutAt? [c] rest with
      | some (key, ':' :: value) => some (key, Text.trim value)
      | _ => none
    else (cutAtColon? text).map fun (key, value) => (Text.trimEnd key, Text.trim value)
  | [] => none

def isDash : List Char → Bool
  | ['-'] => true
  | '-' :: ' ' :: _ => true
  | _ => false

def Progress.count (o : Progress) (path : List Char) : Nat :=
  ((o.counts.find? fun (p, _) => p == path).map Prod.snd).getD 0

def Progress.parent (o : Progress) : List Char :=
  (o.stack.head?.map (·.path)).getD []

def itemPath (parent : List Char) (i : Nat) : List Char :=
  parent ++ '[' :: (toString i).toList ++ [']']

def keyPath (parent key : List Char) : List Char :=
  if parent.isEmpty then key else parent ++ '.' :: key

def Progress.item (o : Progress) (line indent : Nat) : Progress :=
  let o := { o with stack := o.stack.dropWhile fun f =>
    indent < f.indent || (f.indent == indent && f.isItem) }
  let parent := o.parent
  let i := o.count parent
  let path := itemPath parent i
  let o := { o with counts := (parent, i + 1) :: o.counts }
  let o := o.enter path ⟨line, indent + 1⟩
  { o with stack := ⟨indent, path, true⟩ :: o.stack }

def Progress.key (o : Progress) (line indent : Nat) (key value : List Char) : Progress :=
  let o := { o with stack := o.stack.dropWhile fun f => indent ≤ f.indent }
  let path := keyPath o.parent key
  let o := o.enter path ⟨line, indent + 1⟩
  let isBlock := value.head? == some '|' || value.head? == some '>'
  { o with
    stack := ⟨indent, path, false⟩ :: o.stack
    block := if isBlock then some indent else o.block }

def Progress.content (line : Nat) : (fuel : Nat) → (indent : Nat) → List Char → Progress → Progress
  | 0, _, _, o => o
  | fuel + 1, indent, rest, o =>
    if isDash rest then
      let after := rest.drop 1
      let inner := Text.trimStart after
      let width := 1 + (Text.byteLength after - Text.byteLength inner)
      content line fuel (indent + width) inner (o.item line indent)
    else
      match splitKey? rest with
      | some (key, value) => o.key line indent key value
      | none => o

/-- Whether a line has nothing to enter: blank, a comment, or the mark of a document. -/
def isSkipped (rest : List Char) : Bool :=
  rest.isEmpty || rest.head? == some '#' || rest == ['-', '-', '-']

def Progress.line (o : Progress) (number : Nat) (raw : List Char) : Progress :=
  let indent := (raw.takeWhile (· == ' ')).length
  let rest := Text.trimEnd (raw.drop indent)
  let inBlock :=
    match o.block with
    | some owner => rest.isEmpty || owner < indent
    | none => false
  if inBlock then o
  else
    let o := { o with block := none }
    if isSkipped rest then o else content number (rest.length + 1) indent rest o

def Progress.scan : (number : Nat) → List (List Char) → Progress → Progress
  | _, [], o => o
  | n, raw :: rest, o => scan (n + 1) rest (o.line n raw)

def ofText (source : String) : Locator :=
  ⟨(Progress.scan 1 (Text.linesOf source.toList) .start).found⟩

def find? (l : Locator) (path : String) : Option Location :=
  (l.locations.find? fun (p, _) => p == path).map Prod.snd

/-- The path without its last key or item, given in reverse. -/
def enclosing : List Char → List Char
  | [] => []
  | c :: rest => if c = '.' ∨ c = '[' then rest else enclosing rest

/-- The enclosing path is shorter. -/
theorem length_enclosing_lt (c : Char) (rest : List Char) :
    (enclosing (c :: rest)).length < (c :: rest).length := by
  induction rest generalizing c with
  | nil => by_cases h : c = '.' ∨ c = '[' <;> simp [enclosing, h]
  | cons d rest ih =>
    by_cases h : c = '.' ∨ c = '['
    · simp [enclosing, h]
    · have := ih d
      rw [enclosing, if_neg h]
      simp only [List.length_cons] at this ⊢
      omega

/-- The location of a path, given in reverse, or of the nearest path around it. -/
def locateReversed? (l : Locator) (path : List Char) : Option Location :=
  match path with
  | [] => none
  | c :: rest =>
    match l.find? (String.ofList (c :: rest).reverse) with
    | some location => some location
    | none => locateReversed? l (enclosing (c :: rest))
termination_by path.length
decreasing_by exact length_enclosing_lt c rest

/--
The location of a path, or of the nearest path around it. The empty path is that of an empty key; it
encloses no other path.
-/
def locate? (l : Locator) (path : String) : Option Location :=
  if path.isEmpty then l.find? path else locateReversed? l path.toList.reverse

end Locator
end Gleaner
