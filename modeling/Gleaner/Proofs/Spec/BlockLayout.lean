import Gleaner.Spec.Location
import Gleaner.Text.Name
/-!
# Documents in block style

A tree of mappings and sequences can be written in block style in many ways: each level may be
indented by any number of columns, a sequence may be level with the key it belongs to, an item may
begin on the line of its dash or below it, and blank lines and comments may stand between entries.

* `Node`, `Entry`, `Item` are trees together with the choices of how to write them, `Document` is a
  tree with what stands before it;
* `Document.lines` are the lines of the document;
* `Path` leads from the root to a part of the tree, and `spell` is the text of a path;
* `Document.parts` are the keys, the items and the texts on their own, each with its path and the
  place where it is written;
* `Quoted.imitated?` is the key that a text on its own seems to hold.

The first line of a node may be the end of a line that began with dashes, so a node is written as a
head, which is indented by whatever stands before it, and the lines of a tail.
-/

namespace Gleaner
namespace Layout

/-! ## Texts -/

/-- Space at the front of a line or between two parts of it. -/
def spaces (n : Nat) : List Char :=
  List.replicate n ' '

/-- The key of an entry: a name. -/
structure Key where
  text : List Char
  isName : Text.isNameChars text = true
  deriving DecidableEq

/-- What can stand between double quotes: a quote and a backslash only as part of an escape. -/
def isQuotable : List Char → Bool
  | [] => true
  | ['\\'] => false
  | '\\' :: _ :: rest => isQuotable rest
  | c :: rest => c != '"' && isQuotable rest

/-- A text of one line in double quotes, as it is written. -/
structure Quoted where
  body : List Char
  quotable : isQuotable body = true

def Quoted.text (q : Quoted) : List Char :=
  '"' :: q.body ++ ['"']

/--
The key that a text seems to hold: what stands before the first quote in it, if a colon follows that
quote. As a text in double quotes it is no key, for the quote is escaped.
-/
def Quoted.imitated? (q : Quoted) : Option (List Char) :=
  match Text.cutAt? ['"'] q.body with
  | some (key, ':' :: _) => some key
  | _ => none

structure BlankLine where
  text : List Char
  blank : text.all Text.isBlank = true

/-- A line between entries that says nothing. -/
inductive Filler where
  | blank (line : BlankLine)
  | comment (indent : Nat) (text : List Char)

def Filler.line : Filler → List Char
  | .blank line => line.text
  | .comment indent text => spaces indent ++ '#' :: text

/-- A line of a block of text: blank, or deeper than the key by one more than `indent`. -/
inductive ContentLine where
  | blank (line : BlankLine)
  | deeper (indent : Nat) (text : List Char)

def ContentLine.line (column : Nat) : ContentLine → List Char
  | .blank line => line.text
  | .deeper indent text => spaces (column + 1 + indent) ++ text

/-- What may follow the bar of a block of text: whether to keep the line ends after it, and how deep
it is. -/
def isIndicator (c : Char) : Bool :=
  c == '+' || c == '-' || c.isDigit

/-- A literal block of text, the value of a key. -/
structure Block where
  indicators : List Char
  allowed : indicators.all isIndicator = true
  content : List ContentLine

/-- What stands on the line of the key. -/
def Block.header (b : Block) : List Char :=
  '|' :: b.indicators

/-! ## Trees -/

mutual

inductive Node where
  | text (q : Quoted)
  | mapping (entries : Entries)
  | sequence (items : Items)

/-- A key with its value, and the lines up to the next entry. -/
inductive Entry where
  | text (key : Key) (space : Nat) (q : Quoted) (after : List Filler)
  | block (key : Key) (space : Nat) (b : Block) (after : List Filler)
  -- A node below the key, deeper by one more than `indent`.
  | nested (key : Key) (before : List Filler) (indent : Nat) (node : Node) (after : List Filler)
  -- A sequence below the key and level with it.
  | level (key : Key) (before : List Filler) (items : Items) (after : List Filler)

inductive Entries where
  | last (entry : Entry)
  | more (entry : Entry) (rest : Entries)

/-- An item of a sequence, and the lines up to the next item. -/
inductive Item where
  -- A node that begins on the line of the dash, after one space more than `space`.
  | compact (space : Nat) (node : Node) (after : List Filler)
  -- A node below the dash, deeper by one more than `indent`.
  | alone (before : List Filler) (indent : Nat) (node : Node) (after : List Filler)

inductive Items where
  | last (item : Item)
  | more (item : Item) (rest : Items)

end

def Entry.key : Entry → Key
  | .text key .. | .block key .. | .nested key .. | .level key .. => key

def Entries.keys : Entries → List Key
  | .last entry => [entry.key]
  | .more entry rest => entry.key :: rest.keys

mutual

/-- Whether no mapping has a key twice. -/
def Node.distinct : Node → Bool
  | .text _ => true
  | .mapping entries => entries.distinct
  | .sequence items => items.distinct

def Entry.distinct : Entry → Bool
  | .text .. | .block .. => true
  | .nested _ _ _ node _ => node.distinct
  | .level _ _ items _ => items.distinct

def Entries.distinct : Entries → Bool
  | .last entry => entry.distinct
  | .more entry rest => entry.distinct && decide (entry.key ∉ rest.keys) && rest.distinct

def Item.distinct : Item → Bool
  | .compact _ node _ => node.distinct
  | .alone _ _ node _ => node.distinct

def Items.distinct : Items → Bool
  | .last item => item.distinct
  | .more item rest => item.distinct && rest.distinct

end

/-! ## Lines -/

/-- The line of an entry, after its indentation. -/
def Entry.head : Entry → List Char
  | .text key space q _ => key.text ++ ':' :: spaces (space + 1) ++ q.text
  | .block key space b _ => key.text ++ ':' :: spaces (space + 1) ++ b.header
  | .nested key .. | .level key .. => key.text ++ [':']

def Entries.head : Entries → List Char
  | .last entry | .more entry _ => entry.head

mutual

def Node.head : Node → List Char
  | .text q => q.text
  | .mapping entries => entries.head
  | .sequence items => items.head

def Item.head : Item → List Char
  | .compact space node _ => '-' :: spaces (space + 1) ++ node.head
  | .alone .. => ['-']

def Items.head : Items → List Char
  | .last item | .more item _ => item.head

end

mutual

/-- The lines of a node after the first one, where the node begins in a column. -/
def Node.tail (column : Nat) : Node → List (List Char)
  | .text _ => []
  | .mapping entries => entries.tail column
  | .sequence items => items.tail column

def Entry.tail (column : Nat) : Entry → List (List Char)
  | .text _ _ _ after => after.map Filler.line
  | .block _ _ b after => b.content.map (ContentLine.line column) ++ after.map Filler.line
  | .nested _ before indent node after =>
    before.map Filler.line ++
      (spaces (column + 1 + indent) ++ node.head) :: node.tail (column + 1 + indent) ++
        after.map Filler.line
  | .level _ before items after =>
    before.map Filler.line ++ (spaces column ++ items.head) :: items.tail column ++
      after.map Filler.line

def Entries.tail (column : Nat) : Entries → List (List Char)
  | .last entry => entry.tail column
  | .more entry rest => entry.tail column ++ (spaces column ++ rest.head) :: rest.tail column

def Item.tail (column : Nat) : Item → List (List Char)
  | .compact space node after => node.tail (column + 2 + space) ++ after.map Filler.line
  | .alone before indent node after =>
    before.map Filler.line ++
      (spaces (column + 1 + indent) ++ node.head) :: node.tail (column + 1 + indent) ++
        after.map Filler.line

def Items.tail (column : Nat) : Items → List (List Char)
  | .last item => item.tail column
  | .more item rest => item.tail column ++ (spaces column ++ rest.head) :: rest.tail column

end

/-- A tree in block style, and the lines before it. -/
structure Document where
  before : List Filler
  root : Node

def Document.lines (d : Document) : List (List Char) :=
  d.before.map Filler.line ++ d.root.head :: d.root.tail 0

/-! ## Paths -/

/-- A step into a tree: to the value of a key, or to an item. -/
inductive Step where
  | key (k : Key)
  | index (i : Nat)
  deriving DecidableEq

/-- The steps from the root to a part of a tree. -/
abbrev Path := List Step

/-- The text of a step that is not the first one. -/
def Step.text : Step → List Char
  | .key k => '.' :: k.text
  | .index i => '[' :: (toString i).toList ++ [']']

/-- The text of a path: keys with a period between them and what is before, items in brackets. -/
def spell : Path → List Char
  | [] => []
  | .key k :: rest => k.text ++ rest.flatMap Step.text
  | .index i :: rest => (Step.index i).text ++ rest.flatMap Step.text

inductive Part where
  -- A key or an item, where the key or the dash is written.
  | place (path : Path) (location : Location)
  -- A text on its own, where its first quote is written.
  | text (path : Path) (location : Location) (q : Quoted)

mutual

/-- The parts of a node at a path that begins in a line and in a column. -/
def Node.parts (path : Path) (line column : Nat) : Node → List Part
  | .text q => [.text path ⟨line, column + 1⟩ q]
  | .mapping entries => entries.parts path line column
  | .sequence items => items.parts path 0 line column

def Entry.parts (path : Path) (line column : Nat) : Entry → List Part
  | .text key .. | .block key .. => [.place (path ++ [.key key]) ⟨line, column + 1⟩]
  | .nested key before indent node _ =>
    .place (path ++ [.key key]) ⟨line, column + 1⟩ ::
      node.parts (path ++ [.key key]) (line + 1 + before.length) (column + 1 + indent)
  | .level key before items _ =>
    .place (path ++ [.key key]) ⟨line, column + 1⟩ ::
      items.parts (path ++ [.key key]) 0 (line + 1 + before.length) column

def Entries.parts (path : Path) (line column : Nat) : Entries → List Part
  | .last entry => entry.parts path line column
  | .more entry rest =>
    entry.parts path line column ++
      rest.parts path (line + 1 + (entry.tail column).length) column

def Item.parts (path : Path) (i line column : Nat) : Item → List Part
  | .compact space node _ =>
    .place (path ++ [.index i]) ⟨line, column + 1⟩ ::
      node.parts (path ++ [.index i]) line (column + 2 + space)
  | .alone before indent node _ =>
    .place (path ++ [.index i]) ⟨line, column + 1⟩ ::
      node.parts (path ++ [.index i]) (line + 1 + before.length) (column + 1 + indent)

def Items.parts (path : Path) (i line column : Nat) : Items → List Part
  | .last item => item.parts path i line column
  | .more item rest =>
    item.parts path i line column ++
      rest.parts path (i + 1) (line + 1 + (item.tail column).length) column

end

def Document.parts (d : Document) : List Part :=
  d.root.parts [] (1 + d.before.length) 0

end Layout
end Gleaner
