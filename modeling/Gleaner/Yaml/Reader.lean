import Gleaner.Yaml.Scalar
/-!
# Reading YAML

* `readBlock?` reads a node of a block, `readFlow?` a node inside brackets;
* `Node.read?` reads a text that holds exactly one document.

A key is a node on one line with a colon after it. The column where a mapping's first key begins is
the indentation of the mapping, and that of its dashes the indentation of a sequence. The recursion
is bounded by the number of characters.
-/

namespace Gleaner
namespace Yaml

/-! ## Properties -/

/-- What stands before the content of a node: an anchor and a tag. -/
structure Properties where
  anchor : Option String := none
  tag : Option String := none

/-- The node with its tag; an anchor is entered for it. -/
def Properties.attach (p : Properties) (node : Node) (s : Cursor) : Node × Cursor :=
  let node := node.tagged p.tag
  match p.anchor with
  | none => (node, s)
  | some name => (node, { s with anchors := (name, node) :: s.anchors })

def isAnchorChar (c : Char) : Bool :=
  c.isAlphanum || c == '_' || c == '-'

def endsAnchor : List Char → Bool
  | [] => true
  | c :: _ => isBlank c || c == '\n' || "?:,]\x7d%@\x60".toList.contains c

def readAnchorName? (s : Cursor) : Option (String × Cursor) :=
  let name := s.rest.takeWhile isAnchorChar
  let after := s.passWhile isAnchorChar
  if name.isEmpty || !endsAnchor after.rest then none else some (String.ofList name, after)

def coreTag (name : List Char) : String :=
  "tag:yaml.org,2002:" ++ String.ofList name

def readTag? (flow : Bool) (s : Cursor) : Option (String × Cursor) :=
  let isPart := fun c => !isBlank c && c != '\n' && !(flow && isFlowIndicator c)
  let text := s.rest.takeWhile isPart
  let after := s.passWhile isPart
  match text with
  | '!' :: '!' :: name => if name.isEmpty then none else some (coreTag name, after)
  | '!' :: '<' :: more =>
    if more.getLast? = some '>' then some (String.ofList more.dropLast, after) else none
  | '!' :: name => if name.contains '!' then none else some (String.ofList ('!' :: name), after)
  | _ => none

/-- The properties at the front, each kind at most once, with the blanks after them. -/
def readProperties? (flow : Bool) (p : Properties) : (fuel : Nat) → Cursor →
    Option (Properties × Cursor)
  | 0, s => some (p, s)
  | fuel + 1, s =>
    match s.rest with
    | '&' :: _ =>
      if p.anchor.isSome then none
      else
        match readAnchorName? s.step with
        | some (name, after) =>
          readProperties? flow { p with anchor := some name } fuel after.passBlanks
        | none => none
    | '!' :: _ =>
      if p.tag.isSome then none
      else
        match readTag? flow s with
        | some (tag, after) => readProperties? flow { p with tag := some tag } fuel after.passBlanks
        | none => none
    | _ => some (p, s)

def Properties.isSome (p : Properties) : Bool :=
  p.anchor.isSome || p.tag.isSome

/-! ## Keys -/

def keyLimit : Nat :=
  1024

/-- Whether what was read between two positions can be a key: one line, and not too long. -/
def canBeKey (start stop : Cursor) : Bool :=
  start.line == stop.line && stop.column ≤ start.column + keyLimit

def readAlias? (s : Cursor) : Option (Node × Cursor) := do
  let (name, after) ← readAnchorName? s.step
  let (_, node) ← after.anchors.find? fun (n, _) => n == name
  some (node, after)

/-! ## Inside brackets -/

mutual

def readFlow? (indent : Int) : (fuel : Nat) → Cursor → Option (Node × Cursor)
  | 0, _ => none
  | fuel + 1, s => do
    if s.atMarker || s.atDash then none
    else
      let (p, s) ← readProperties? true {} 2 s
      match s.rest with
      | '*' :: _ => if p.isSome then none else readAlias? s
      | '[' :: _ => do
        let (items, s) ← readFlowItems? indent fuel s.step
        some (p.attach (.sequence items none) s)
      | '\x7b' :: _ => do
        let (entries, s) ← readFlowEntries? indent fuel s.step
        some (p.attach (.mapping entries none) s)
      | c :: _ =>
        if c = '"' ∨ c = '\'' then do
          let (text, s) ← readQuoted? s
          some (p.attach (.scalar (String.ofList text) false none) s)
        else if beginsPlain true s.rest then do
          let (text, s) ← readPlain? true indent s
          some (p.attach (.scalar (String.ofList text) true none) s)
        else if p.isSome && (c == ',' || c == ']' || c == '\x7d' || c == ':' || c == '\n') then
          some (p.attach .empty s)
        else none
      | [] => none

def readFlowItems? (indent : Int) : (fuel : Nat) → Cursor → Option (List Node × Cursor)
  | 0, _ => none
  | fuel + 1, s => do
    let s := s.skipInside
    match s.rest with
    | ']' :: _ => some ([], s.step)
    | _ => do
      let ((node, value), after) ← readFlowPair? indent fuel s
      let item :=
        match value with
        | some value => .mapping [(node, value)] none
        | none => node
      let after := after.skipInside
      match after.rest with
      | ',' :: _ => do
        let (items, s) ← readFlowItems? indent fuel after.step
        some (item :: items, s)
      | ']' :: _ => some ([item], after.step)
      | _ => none

def readFlowEntries? (indent : Int) :
    (fuel : Nat) → Cursor → Option (List (Node × Node) × Cursor)
  | 0, _ => none
  | fuel + 1, s => do
    let s := s.skipInside
    match s.rest with
    | '\x7d' :: _ => some ([], s.step)
    | _ => do
      let ((key, value), after) ← readFlowPair? indent fuel s
      let entry := (key, value.getD .empty)
      let after := after.skipInside
      match after.rest with
      | ',' :: _ => do
        let (entries, s) ← readFlowEntries? indent fuel after.step
        some (entry :: entries, s)
      | '\x7d' :: _ => some ([entry], after.step)
      | _ => none

/-- A node with the value after it, if there is one; after a question mark there always is. -/
def readFlowPair? (indent : Int) :
    (fuel : Nat) → Cursor → Option ((Node × Option Node) × Cursor)
  | 0, _ => none
  | fuel + 1, s =>
    match s.rest with
    | '?' :: _ => do
      let s := s.step.skipInside
      let (key, after) ←
        match s.rest with
        | ':' :: _ | ',' :: _ | ']' :: _ | '\x7d' :: _ => some (.empty, s)
        | _ => readFlow? indent fuel s
      let after := after.skipInside
      let (value, after) ← readFlowValue? indent fuel after after
      some ((key, some (value.getD .empty)), after)
    | _ => do
      let (node, after) ← readFlow? indent fuel s
      let (value, after) ← readFlowValue? indent fuel s after
      some ((node, value), after)

/-- The value after a key that began at `start`, if a colon follows; it may be empty. -/
def readFlowValue? (indent : Int) : (fuel : Nat) → (start : Cursor) → Cursor →
    Option (Option Node × Cursor)
  | 0, _, _ => none
  | fuel + 1, start, s => do
    let after := s.skipInside
    match after.rest with
    | ':' :: _ =>
      if !canBeKey start after then none
      else
        let s := after.step.skipInside
        match s.rest with
        | ',' :: _ | ']' :: _ | '\x7d' :: _ => some (some .empty, s)
        | _ => do
          let (node, s) ← readFlow? indent fuel s
          some (some node, s)
    | _ => some (none, s)

end

/-! ## Blocks -/

/-- What can be a key, and may be a node by itself: the content of a node on its own line. -/
def readInline? (indent : Int) (fuel : Nat) (p : Properties) (s : Cursor) :
    Option (Node × Cursor) :=
  match s.rest with
  | '*' :: _ => if p.isSome then none else readAlias? s
  | '[' :: _ => (readFlow? indent fuel s).map fun (node, s) => p.attach node s
  | '\x7b' :: _ => (readFlow? indent fuel s).map fun (node, s) => p.attach node s
  | c :: _ =>
    if c = '"' ∨ c = '\'' then
      (readQuoted? s).map fun (text, s) => p.attach (.scalar (String.ofList text) false none) s
    else if beginsPlain false s.rest then
      (readPlain? false indent s).map fun (text, s) =>
        p.attach (.scalar (String.ofList text) true none) s
    else if p.isSome && s.atColon then some (p.attach .empty s)
    else none
  | [] => none

mutual

/--
A node of a block, at its first character. Its lines are indented by more than `indent`; on a line
of its own, where `keyAllowed` says so, it may be a sequence or a mapping.
-/
def readBlock? : (fuel : Nat) → (indent : Int) → (keyAllowed : Bool) → Cursor →
    Option (Node × Cursor)
  | 0, _, _, _ => none
  | fuel + 1, indent, keyAllowed, s => do
    if s.atDash then
      if keyAllowed then
        let (items, s) ← readEntries? fuel s.column s
        some (.sequence items none, s)
      else none
    else if s.atQuestion then
      if keyAllowed then
        let (entries, s) ← readPairs? fuel s.column s
        some (.mapping entries none, s)
      else none
    else
      let (p, content) ← readProperties? false {} 2 s
      let next := content.skip true
      if p.isSome && (content.rest.isEmpty || next.line != content.line) then
        -- The properties stand on a line of their own, before a node on the lines below.
        if next.atEnd || (next.column : Int) < indent ||
            ((next.column : Int) == indent && !next.atDash) then
          some (p.attach .empty content)
        else do
          let (node, s) ← readBlock? fuel indent true next
          some (p.attach node s)
      else if content.rest.head? = some '|' ∨ content.rest.head? = some '>' then do
        let (text, s) ← readBlockText? indent content
        some (p.attach (.scalar (String.ofList text) false none) s)
      else do
        let (node, after) ← readInline? indent fuel p content
        let colon := after.passBlanks
        if keyAllowed && colon.atColon && canBeKey s colon then do
          let (value, rest) ← readValue? fuel s.column colon.step
          let (entries, rest) ← readMorePairs? fuel s.column rest
          some (.mapping ((node, value) :: entries) none, rest)
        else some (node, after)

def readValue? : (fuel : Nat) → (column : Nat) → Cursor → Option (Node × Cursor)
  | 0, _, _ => none
  | fuel + 1, column, s =>
    let next := s.skip true
    if next.atEnd then some (.empty, next)
    else if next.line = s.line then readBlock? fuel column false next
    else if column < next.column then readBlock? fuel column true next
    else if next.column = column ∧ next.atDash then do
      let (items, s) ← readEntries? fuel column next
      some (.sequence items none, s)
    else some (.empty, next)

def readMorePairs? :
    (fuel : Nat) → (column : Nat) → Cursor → Option (List (Node × Node) × Cursor)
  | 0, _, _ => none
  | fuel + 1, column, s =>
    let next := s.skip true
    if next.atEnd || next.column < column then some ([], next)
    else if next.column = column then readPairs? fuel column next
    else none

def readPairs? :
    (fuel : Nat) → (column : Nat) → Cursor → Option (List (Node × Node) × Cursor)
  | 0, _, _ => none
  | fuel + 1, column, s => do
    if s.atQuestion then
      let (key, rest) ← readAfterMark? fuel column s.step
      let next := rest.skip true
      if !next.atEnd && next.column == column && next.atColon then
        let (value, rest) ← readAfterMark? fuel column next.step
        let (entries, rest) ← readMorePairs? fuel column rest
        some ((key, value) :: entries, rest)
      else
        let (entries, rest) ← readMorePairs? fuel column rest
        some ((key, .empty) :: entries, rest)
    else if s.atDash then none
    else
      let (p, content) ← readProperties? false {} 2 s
      let (key, after) ← readInline? column fuel p content
      let colon := after.passBlanks
      if colon.atColon && canBeKey s colon then do
        let (value, rest) ← readValue? fuel column colon.step
        let (entries, rest) ← readMorePairs? fuel column rest
        some ((key, value) :: entries, rest)
      else none

/-- The node after a dash, or after the mark of a key or value that is written out. -/
def readAfterMark? : (fuel : Nat) → (column : Nat) → Cursor → Option (Node × Cursor)
  | 0, _, _ => none
  | fuel + 1, column, s =>
    let next := s.skip false
    if next.atEnd then some (.empty, next)
    else if next.line = s.line ∨ column < next.column then readBlock? fuel column true next
    else some (.empty, next)

/-- The items of a sequence whose dashes stand at a column, from a dash on. -/
def readEntries? : (fuel : Nat) → (column : Nat) → Cursor → Option (List Node × Cursor)
  | 0, _, _ => none
  | fuel + 1, column, s => do
    let (item, rest) ← readAfterMark? fuel column s.step
    let next := rest.skip true
    if next.atEnd || next.column < column then some ([item], next)
    else if next.column = column then
      if next.atDash then
        let (items, rest) ← readEntries? fuel column next
        some (item :: items, rest)
      else some ([item], next)
    else none

end

/-! ## Documents -/

def isDirective (line : List Char) : Bool :=
  (Text.dropPrefix? "%YAML 1.1".toList line).isSome ||
    (Text.dropPrefix? "%YAML 1.2".toList line).isSome ||
    (Text.dropPrefix? "%TAG ".toList line).isSome

/-- Pass the directives before a document; the flag says whether there were any. -/
def passDirectives? : (fuel : Nat) → (seen : Bool) → Cursor → Option (Bool × Cursor)
  | 0, _, _ => none
  | fuel + 1, seen, s =>
    let s := s.skip false
    match s.rest with
    | '%' :: _ =>
      if s.column = 0 ∧ isDirective (s.rest.takeWhile (· != '\n')) then
        passDirectives? fuel true (s.passWhile (· != '\n'))
      else none
    | _ => some (seen, s)

/-- Pass the marks of the document's end; nothing may follow them. -/
def isFinished : (fuel : Nat) → Cursor → Bool
  | 0, _ => false
  | fuel + 1, s =>
    let s := s.skip true
    if s.rest.isEmpty then true
    else if s.column = 0 ∧ s.atWord ['.', '.', '.'] then isFinished fuel (s.steps 3)
    else false

def Node.read? (source : String) : Option Node := do
  let cs ← normalizeBreaks? source.toList
  let fuel := 8 * cs.length + 16
  let (directives, s) ← passDirectives? (cs.length + 1) false (.start cs)
  let explicit := s.column == 0 && s.atWord ['-', '-', '-']
  if s.rest.isEmpty || (directives && !explicit) then none
  else
    let (sameLine, s) :=
      if explicit then
        let next := (s.steps 3).skip true
        (next.line == s.line, next)
      else (false, s)
    let (node, s) ← if s.atEnd then some (.empty, s) else readBlock? fuel (-1) (!sameLine) s
    if isFinished (cs.length + 1) s then some node else none

end Yaml
end Gleaner
