import Gleaner.Html.Draft
import Gleaner.Html.Foreign
/-!
# Construction of trees

The state in which a document of hypertext is put together, and the steps on it that the rules for
the pieces share.

* `Construction` is the state: the draft, the open elements, the formatting elements, the mode;
* `insert`, `insertText`, `insertComment` add to the draft at the place that is due;
* `inScope`, `popThrough`, `closeImplied` work on the open elements;
* `reopenFormatting`, `adopt` keep formatting elements in force across badly nested tags.

Open elements and formatting elements are listed from the innermost and the latest on.
-/

namespace Gleaner
namespace Html

inductive Mode where
  | initial | beforeHtml | beforeHead | inHead | afterHead | inBody | text | inTable | inTableText
  | inCaption | inColumnGroup | inTableBody | inRow | inCell | inSelect | inSelectInTable
  | inTemplate | afterBody | inFrameset | afterFrameset | afterAfterBody | afterAfterFrameset
  deriving DecidableEq, Repr

inductive Mark where
  -- The border of a part that formatting does not cross.
  | border
  | element (n : Nat) (tag : Tag)
  deriving DecidableEq, Repr

structure Construction where
  draft : Draft
  -- The open elements, the innermost first.
  opened : List Nat
  -- The formatting elements in force, the latest first.
  formatting : List Mark
  mode : Mode
  -- The part to return to after text.
  resumed : Mode
  -- The parts of the open templates, the innermost first.
  templates : List Mode
  head : Option Nat
  form : Option Nat
  -- Whether frames may still take the place of the body.
  framesAllowed : Bool
  -- Whether the document type asks for the old rules.
  isOld : Bool
  -- Whether what is found in a table goes in front of it.
  fostering : Bool
  -- Text found in a table, the latest first; the flag is true of white space.
  pending : List (Bool × String)
  -- Whether a line feed that comes next is passed over.
  skipsLineFeed : Bool
  -- What the next piece of the document may be.
  model : ContentModel

namespace Construction

def start : Construction where
  draft := .empty
  opened := []
  formatting := []
  mode := .initial
  resumed := .initial
  templates := []
  head := none
  form := none
  framesAllowed := true
  isOld := false
  fostering := false
  pending := []
  skipsLineFeed := false
  model := .markup

/-! ## Open elements -/

def holds (c : Construction) (p : Element → Bool) (n : Nat) : Bool :=
  (c.draft.element? n).any p

/-- Whether an item is an element of hypertext with one of the given names. -/
def isAmong (c : Construction) (names : List String) (n : Nat) : Bool :=
  c.holds (fun e => e.isAmong names) n

def currentIs (c : Construction) (names : List String) : Bool :=
  c.opened.head?.any (c.isAmong names)

def hasOpen (c : Construction) (names : List String) : Bool :=
  c.opened.any (c.isAmong names)

def bounds (e : Element) : Bool :=
  e.isAmong ["applet", "caption", "html", "table", "td", "th", "marquee", "object", "template"] ||
    isTextPoint e || isHypertextPoint e ||
    (e.vocabulary == .math && e.name == "annotation-xml")

def boundsItems (e : Element) : Bool :=
  bounds e || e.isAmong ["ol", "ul"]

def boundsButtons (e : Element) : Bool :=
  bounds e || e.isNamed "button"

def boundsTables (e : Element) : Bool :=
  e.isAmong ["html", "table", "template"]

/-- The elements that bound the scope of selections: all but their options. -/
def boundsSelects (e : Element) : Bool :=
  !e.isAmong ["optgroup", "option"]

/-- Whether an open element satisfies a condition before one that bounds the scope. -/
def reaches (c : Construction) (bound goal : Element → Bool) : List Nat → Bool
  | [] => false
  | n :: rest =>
    if c.holds goal n then true
    else if c.holds bound n then false
    else c.reaches bound goal rest

/-- Whether an element with one of the given names is open in the scope with the given bounds. -/
def inScopeOf (c : Construction) (bound : Element → Bool) (names : List String) : Bool :=
  c.reaches bound (fun e => e.isAmong names) c.opened

/-- Whether an element with one of the given names is open in scope. -/
def inScope (c : Construction) (names : List String) : Bool :=
  c.inScopeOf bounds names

def pop (c : Construction) : Construction :=
  { c with opened := c.opened.drop 1 }

/-- Close elements until one with one of the given names is the innermost. -/
def popTo (c : Construction) (names : List String) : Construction :=
  { c with opened := c.opened.dropWhile fun n => !c.isAmong names n }

/-- Close elements up to and with one that has one of the given names. -/
def popThrough (c : Construction) (names : List String) : Construction :=
  (c.popTo names).pop

def impliedNames : List String :=
  ["dd", "dt", "li", "optgroup", "option", "p", "rb", "rp", "rt", "rtc"]

/-- Close the elements that end by themselves, but for the given names. -/
def closeImpliedBut (c : Construction) (but : List String) : Construction :=
  let names := impliedNames.filter fun n => !but.contains n
  { c with opened := c.opened.dropWhile (c.isAmong names) }

def closeImplied (c : Construction) : Construction :=
  c.closeImpliedBut []

/-- Close all elements that end by themselves when a template ends. -/
def closeAllImplied (c : Construction) : Construction :=
  let names :=
    impliedNames ++ ["caption", "colgroup", "tbody", "td", "tfoot", "th", "thead", "tr"]
  { c with opened := c.opened.dropWhile (c.isAmong names) }

def closeParagraph (c : Construction) : Construction :=
  (c.closeImpliedBut ["p"]).popThrough ["p"]

def closeOpenParagraph (c : Construction) : Construction :=
  if c.inScopeOf boundsButtons ["p"] then c.closeParagraph else c

/-- The elements of hypertext with a meaning of their own, which stop the search for an opening. -/
def specialNames : List String :=
  ["address", "applet", "area", "article", "aside", "base", "basefont", "bgsound", "blockquote",
    "body", "br", "button", "caption", "center", "col", "colgroup", "dd", "details", "dir", "div",
    "dl", "dt", "embed", "fieldset", "figcaption", "figure", "footer", "form", "frame", "frameset",
    "h1", "h2", "h3", "h4", "h5", "h6", "head", "header", "hgroup", "hr", "html", "iframe", "img",
    "input", "isindex", "li", "link", "listing", "main", "marquee", "menu", "meta", "nav",
    "noembed", "noframes", "noscript", "object", "ol", "p", "param", "plaintext", "pre", "script",
    "section", "select", "source", "style", "summary", "table", "tbody", "td", "template",
    "textarea", "tfoot", "th", "thead", "title", "tr", "track", "ul", "wbr", "xmp"]

def isSpecial (e : Element) : Bool :=
  e.isAmong specialNames || isTextPoint e || isHypertextPoint e ||
    (e.vocabulary == .math && e.name == "annotation-xml")

/-! ## Insertion -/

def elementOf (tag : Tag) : Element :=
  ⟨.html, tag.name, tag.attributes.map fun (n, v) => .plain n v⟩

/-- The place in front of the innermost table, or in the template inside of it. -/
def fosterPlace (c : Construction) : Draft.Place :=
  match c.opened.dropWhile fun n => !c.isAmong ["table", "template"] n with
  | [] => .endOf (c.opened.getLast?.getD Draft.root)
  | n :: outer =>
    if c.isAmong ["template"] n then .endOf n
    else
      match c.draft.parent? n with
      | some p => .before p n
      | none => .endOf (outer.head?.getD Draft.root)

/-- The place at which something belongs that is found inside of an element. -/
def placeIn (c : Construction) (target : Nat) : Draft.Place :=
  if c.fostering && c.isAmong ["table", "tbody", "tfoot", "thead", "tr"] target then c.fosterPlace
  else .endOf target

def place (c : Construction) : Draft.Place :=
  c.placeIn (c.opened.head?.getD Draft.root)

def enter (c : Construction) (e : Element) : Construction :=
  let (n, made) := c.draft.make (.element e)
  { c with draft := made.attach c.place n, opened := n :: c.opened }

def insert (c : Construction) (tag : Tag) : Construction :=
  c.enter (elementOf tag)

def insertNamed (c : Construction) (name : String) : Construction :=
  c.insert ⟨name, [], false⟩

def insertClosed (c : Construction) (tag : Tag) : Construction :=
  (c.insert tag).pop

def insertText (c : Construction) (s : String) : Construction :=
  { c with draft := c.draft.addText c.place s }

def insertCommentAt (c : Construction) (n : Nat) (s : String) : Construction :=
  let (m, made) := c.draft.make (.comment s)
  { c with draft := made.attach (.endOf n) m }

def insertComment (c : Construction) (s : String) : Construction :=
  let (m, made) := c.draft.make (.comment s)
  { c with draft := made.attach c.place m }

def insertWithText (c : Construction) (tag : Tag) (model : ContentModel) : Construction :=
  { c.insert tag with model := model, resumed := c.mode, mode := .text }

/-- Give the outermost element the attributes of a tag that it does not have. -/
def mergeInto (c : Construction) (n : Option Nat) (tag : Tag) : Construction :=
  match n with
  | some n => { c with draft := c.draft.addAttributes n (elementOf tag).attributes }
  | none => c

/-! ## Formatting elements -/

def isSettled (c : Construction) : Mark → Bool
  | .border => true
  | .element n _ => c.opened.contains n

/-- Open the formatting elements in force again that have been closed. -/
def reopenFormatting (c : Construction) : Construction :=
  let stale := c.formatting.takeWhile fun m => !c.isSettled m
  let settled := c.formatting.dropWhile fun m => !c.isSettled m
  stale.foldr
    (fun m c =>
      match m with
      | .border => c
      | .element _ tag =>
        let grown := c.insert tag
        { grown with formatting := .element (grown.opened.head?.getD 0) tag :: grown.formatting })
    { c with formatting := settled }

def sinceBorder (c : Construction) : List Mark :=
  c.formatting.takeWhile (· != .border)

/-- Whether two tags open equal elements, whatever the order of their attributes. -/
def sameTag (a b : Tag) : Bool :=
  a.name == b.name && a.attributes.length == b.attributes.length &&
    a.attributes.all b.attributes.contains

/-- Open a formatting element; of equal ones three stay in force. -/
def insertFormatting (c : Construction) (tag : Tag) : Construction :=
  let same (m : Mark) : Bool :=
    match m with
    | .border => false
    | .element _ t => sameTag t tag
  let equal := c.sinceBorder.filter same
  let kept :=
    match equal.getLast? with
    | some oldest => if 3 ≤ equal.length then c.formatting.erase oldest else c.formatting
    | none => c.formatting
  let grown := c.insert tag
  { grown with formatting := .element (grown.opened.head?.getD 0) tag :: kept }

def addBorder (c : Construction) : Construction :=
  { c with formatting := .border :: c.formatting }

def clearToBorder (c : Construction) : Construction :=
  { c with formatting := (c.formatting.dropWhile (· != .border)).drop 1 }

def isFor (n : Nat) : Mark → Bool
  | .border => false
  | .element m _ => m == n

def forget (c : Construction) (n : Nat) : Construction :=
  { c with formatting := c.formatting.filter fun m => !isFor n m }

def shut (c : Construction) (n : Nat) : Construction :=
  { c with opened := c.opened.filter (· != n) }

/-- The latest formatting element with a name since the nearest border. -/
def formatting? (c : Construction) (name : String) : Option (Nat × Tag) :=
  c.sinceBorder.findSome? fun m =>
    match m with
    | .border => none
    | .element n tag => if tag.name = name then some (n, tag) else none

/-- Close elements up to the one that a closing tag names, unless a special one comes before. -/
def closeNamed (c : Construction) (name : String) : Construction :=
  closeFrom c name c.opened
where
  -- Search the opening among the given open elements.
  closeFrom (c : Construction) (name : String) : List Nat → Construction
    | [] => c
    | n :: rest =>
      if c.isAmong [name] n then { c with opened := rest }
      else if c.holds isSpecial n then c
      else closeFrom c name rest

/-- The state while the elements between a formatting element and a block are copied. -/
structure Adoption where
  construction : Construction
  -- The copies that stay open, the innermost last.
  kept : List Nat
  -- The item to put into the next copy.
  last : Nat
  innermost : Option Nat
  passed : Nat

/-- Copy one of the elements between a formatting element and a block; formatting ones are kept. -/
def Adoption.step (a : Adoption) (n : Nat) : Adoption :=
  let passed := a.passed + 1
  let c := a.construction
  match c.formatting.find? (isFor n) with
  | some (.element _ tag) =>
    if 3 < passed then { a with construction := c.forget n, passed := passed }
    else
      let (copy, made) := c.draft.make (.element (elementOf tag))
      let replaced := c.formatting.map fun m => if isFor n m then .element copy tag else m
      let grown := made.attach (.endOf copy) a.last
      { construction := { c with draft := grown, formatting := replaced }
        kept := a.kept ++ [copy]
        last := copy
        innermost := a.innermost.orElse fun _ => some copy
        passed := passed }
  | _ => { a with passed := passed }

/-- The list with `new` before the entry for an item. -/
def markedBefore (new : Mark) (n : Nat) : List Mark → List Mark
  | [] => [new]
  | m :: rest => if isFor n m then new :: m :: rest else m :: markedBefore new n rest

/--
One round of settling a closing tag of formatting: the contents of the block inside of the
formatting element move into a copy of it. The flag tells whether another round follows.
-/
def adoptOnce (c : Construction) (name : String) : Construction × Bool :=
  match c.formatting? name with
  | none => (c.closeNamed name, false)
  | some (formatter, tag) =>
    if !c.opened.contains formatter then (c.forget formatter, false)
    else if !c.reaches bounds (fun e => e.isNamed name) c.opened then (c, false)
    else
      let inside := c.opened.takeWhile (· != formatter)
      let outside := (c.opened.dropWhile (· != formatter)).drop 1
      match (inside.filter (c.holds isSpecial)).getLast? with
      | none => ({ c with opened := outside }.forget formatter, false)
      | some block =>
        let inner := inside.takeWhile (· != block)
        let between := (inside.dropWhile (· != block)).drop 1
        let a := between.foldl Adoption.step ⟨c, [], block, none, 0⟩
        let ancestor := outside.head?.getD Draft.root
        let placed := a.construction.draft.attach (a.construction.placeIn ancestor) a.last
        let (copy, made) := placed.make (.element (elementOf tag))
        let moved := (made.moveChildren block copy).attach (.endOf block) copy
        let mark := Mark.element copy tag
        let marked :=
          match a.innermost with
          | some n =>
            markedBefore mark n (a.construction.formatting.filter fun m => !isFor formatter m)
          | none => a.construction.formatting.map fun m => if isFor formatter m then mark else m
        ({ a.construction with
            draft := moved
            formatting := marked
            opened := inner ++ [copy, block] ++ a.kept ++ outside }, true)

/-- Rounds of settling a closing tag of formatting, at most `rounds`. -/
def adoptRounds (name : String) : (rounds : Nat) → Construction → Construction
  | 0, c => c
  | rounds + 1, c =>
    let (next, goesOn) := c.adoptOnce name
    if goesOn then adoptRounds name rounds next else next

def adopt (c : Construction) (name : String) : Construction :=
  match c.opened.head? with
  | some n =>
    if c.isAmong [name] n && !c.formatting.any (isFor n) then c.pop else adoptRounds name 8 c
  | none => adoptRounds name 8 c

/-! ## Parts -/

/-- The part in which the reading is, judged by the open elements from the innermost on. -/
def modeOf (c : Construction) : List Nat → Mode
  | [] => .inBody
  | n :: outer =>
    let isLast := outer.isEmpty
    let name :=
      match c.draft.element? n with
      | some e => if e.vocabulary = .html then e.name else ""
      | none => ""
    if name = "select" then
      if (outer.takeWhile fun m => !c.isAmong ["template"] m).any (c.isAmong ["table"]) then
        .inSelectInTable
      else .inSelect
    else if (name = "td" ∨ name = "th") ∧ !isLast then .inCell
    else if name = "tr" then .inRow
    else if name = "tbody" ∨ name = "thead" ∨ name = "tfoot" then .inTableBody
    else if name = "caption" then .inCaption
    else if name = "colgroup" then .inColumnGroup
    else if name = "table" then .inTable
    else if name = "template" then c.templates.head?.getD .inBody
    else if name = "head" ∧ !isLast then .inHead
    else if name = "body" then .inBody
    else if name = "frameset" then .inFrameset
    else if name = "html" then if c.head.isNone then .beforeHead else .afterHead
    else if isLast then .inBody
    else c.modeOf outer

def resetMode (c : Construction) : Construction :=
  { c with mode := c.modeOf c.opened }

end Construction

end Html
end Gleaner
