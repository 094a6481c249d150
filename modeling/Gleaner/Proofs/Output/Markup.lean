import Gleaner.Output.Render
import Gleaner.Proofs.Sequencing
import Gleaner.Text.Blank
/-!
# Elements read back

A reader of elements takes a text one character at a time and follows its tags: an optional
declaration, one root, inside of it the rows, inside of them the cells. Outside of cells there is
nothing but space; the text of a cell is read with its references undone.

* `Markup.Place.next` is what a tag or a text means at a place, `Markup.Reader.next` takes one
  character, `Markup.read?` a whole text;
* `unescaped?_escaped`: undoing the references gives the text back;
* `after_tag`, `after_cellLine`, `after_rowLines` and `after_rows` follow the reader over what is
  written for a tag, a cell, a row and all rows;
* `Output.xml_reads_back`: what is written for rows reads back as their cells.
-/

namespace Gleaner
namespace Output

namespace Markup

/-! ## The reader -/

/-- A text without its references: each of the five stands for its character. -/
def unescaped? : List Char → Option (List Char)
  | [] => some []
  | '&' :: 'l' :: 't' :: ';' :: rest => (unescaped? rest).map ('<' :: ·)
  | '&' :: 'g' :: 't' :: ';' :: rest => (unescaped? rest).map ('>' :: ·)
  | '&' :: 'a' :: 'm' :: 'p' :: ';' :: rest => (unescaped? rest).map ('&' :: ·)
  | '&' :: 'a' :: 'p' :: 'o' :: 's' :: ';' :: rest => (unescaped? rest).map ('\'' :: ·)
  | '&' :: 'q' :: 'u' :: 'o' :: 't' :: ';' :: rest => (unescaped? rest).map ('"' :: ·)
  | c :: rest => if c = '&' then none else (unescaped? rest).map (c :: ·)

inductive Piece where
  | declaration
  | opening (name : String)
  | closing (name : String)
  | single (name : String)
  | text (content : List Char)
  deriving DecidableEq, Repr

def Piece.ofTag : List Char → Piece
  | '?' :: _ => .declaration
  | '/' :: name => .closing (String.ofList name)
  | cs =>
    match Text.dropSuffix? ['/'] cs with
    | some name => .single (String.ofList name)
    | none => .opening (String.ofList cs)

/-- A row that has been read: its name, and the names of its cells with their texts, if any. -/
structure Row where
  tag : String
  cells : List (String × Option String)
  deriving DecidableEq, Repr

/-- Elements that have been read: the name of the root, and the rows. -/
structure Elements where
  root : String
  rows : List Row
  deriving DecidableEq, Repr

inductive Place where
  | start
  -- The declaration has been read.
  | prolog
  | inRoot (e : Elements)
  | inRow (e : Elements) (row : Row)
  | inCell (e : Elements) (row : Row) (name : String) (content : List Char)
  | finished (e : Elements)
  deriving DecidableEq, Repr

/-- Whether a piece is a text of blank characters. -/
def Piece.isSpace : Piece → Bool
  | .text content => content.all Text.isBlank
  | _ => false

/-- What a piece means at a place. -/
def Place.next? (place : Place) (piece : Piece) : Option Place :=
  match place, piece with
  -- in a cell every text counts, and every tag but its own end is a mistake
  | .inCell e row name content, .text more =>
    (unescaped? more).map fun cs => .inCell e row name (content ++ cs)
  | .inCell e row name content, .closing tag =>
    let done := (name, some (String.ofList content))
    if tag = name then some (.inRow e ⟨row.tag, row.cells ++ [done]⟩) else none
  | .inCell .., _ => none
  | .start, .declaration => some .prolog
  | .start, .opening root | .prolog, .opening root => some (.inRoot ⟨root, []⟩)
  | .start, .single root | .prolog, .single root => some (.finished ⟨root, []⟩)
  | .inRoot e, .opening tag => some (.inRow e ⟨tag, []⟩)
  | .inRoot e, .closing tag => if tag = e.root then some (.finished e) else none
  | .inRow e row, .opening name => some (.inCell e row name [])
  | .inRow e row, .single name => some (.inRow e ⟨row.tag, row.cells ++ [(name, none)]⟩)
  | .inRow e row, .closing tag =>
    if tag = row.tag then some (.inRoot ⟨e.root, e.rows ++ [row]⟩) else none
  -- elsewhere only space may stand between the tags
  | place, piece => if piece.isSpace then some place else none

/-- What has been read of a text: a place, and the characters of the tag or text that is read. -/
structure Reader where
  -- The place before the held characters; there is none after a mistake.
  place : Option Place
  -- The characters since the last angle bracket.
  held : List Char
  -- Whether they belong to a tag.
  inTag : Bool
  deriving DecidableEq, Repr

namespace Reader

def initial : Reader :=
  ⟨some .start, [], false⟩

/-- The place after the held text; no text means nothing. -/
def placeAfterText (r : Reader) : Option Place :=
  if r.held.isEmpty then r.place else r.place.bind fun p => p.next? (.text r.held)

def next (r : Reader) (c : Char) : Reader :=
  if r.inTag then
    if c = '>' then ⟨r.place.bind fun p => p.next? (.ofTag r.held), [], false⟩
    else if c = '<' then ⟨none, [], false⟩
    else { r with held := r.held ++ [c] }
  else if c = '<' then ⟨r.placeAfterText, [], true⟩
  else { r with held := r.held ++ [c] }

def after (r : Reader) (cs : List Char) : Reader :=
  cs.foldl next r

def finish? (r : Reader) : Option Elements :=
  match r.inTag, r.placeAfterText with
  | false, some (.finished e) => some e
  | _, _ => none

end Reader

def read? (text : String) : Option Elements :=
  (Reader.initial.after text.toList).finish?

/-! ## References -/

theorem unescaped?_plain {c : Char} (h : c ≠ '&') (rest : List Char) :
    unescaped? (c :: rest) = (unescaped? rest).map (c :: ·) := by
  rw [unescaped?.eq_def]
  split <;> simp_all

theorem unescaped?_escapedChar (c : Char) (rest : List Char) :
    unescaped? (escapedChar c ++ rest) = (unescaped? rest).map (c :: ·) := by
  unfold escapedChar
  split
  -- a character that is written as itself is no ampersand
  case h_6 hamp _ _ => exact unescaped?_plain hamp rest
  all_goals rfl

/-- An escaped text stands for the text. -/
theorem unescaped?_escaped (cs : List Char) :
    unescaped? (cs.flatMap escapedChar) = some cs := by
  induction cs with
  | nil => rfl
  | cons c cs ih =>
      rw [List.flatMap_cons, unescaped?_escapedChar, ih]
      rfl

/-- No tag begins in an escaped text. -/
theorem lt_not_mem_escaped (cs : List Char) : '<' ∉ cs.flatMap escapedChar := by
  intro h
  rcases List.mem_flatMap.1 h with ⟨c, _, hc⟩
  unfold escapedChar at hc
  split at hc <;> simp at hc
  subst hc
  simp_all

/-! ## Names and tags -/

/-- A tag name is not empty, and made of the characters of names. -/
theorem isTagChar_of_isTagName {name : String} (h : isTagName name = true) :
    name.toList ≠ [] ∧ ∀ c ∈ name.toList, isTagChar c = true := by
  unfold isTagName at h
  cases heq : name.toList with
  | nil => simp [heq] at h
  | cons c rest =>
      simp only [heq, Bool.and_eq_true, List.all_eq_true] at h
      rcases h with ⟨⟨hstart, hrest⟩, _⟩
      have hfirst : isTagChar c = true := by
        simp only [isTagStart, Bool.or_eq_true] at hstart
        simp only [isTagChar, Char.isAlphanum, Bool.or_eq_true]
        tauto
      refine ⟨List.cons_ne_nil c rest, ?_⟩
      intro d hd
      rcases List.mem_cons.1 hd with rfl | hmem
      · exact hfirst
      · exact hrest d hmem

/-- A character that no name has. -/
theorem not_mem_of_isTagName {name : String} {c : Char} (h : isTagName name = true)
    (hc : isTagChar c = false) : c ∉ name.toList := by
  intro hmem
  have htrue := (isTagChar_of_isTagName h).2 c hmem
  rw [hc] at htrue
  cases htrue

theorem ofTag_closing (name : String) :
    Piece.ofTag ('/' :: name.toList) = .closing name := by
  simp [Piece.ofTag]

/--
A tag that begins with a tag name is an opening tag or, with a slash at its end, an empty element.
-/
theorem ofTag_name {name : String} (h : isTagName name = true) (rest : List Char) :
    Piece.ofTag (name.toList ++ rest) =
      match Text.dropSuffix? ['/'] (name.toList ++ rest) with
      | some front => .single (String.ofList front)
      | none => .opening (String.ofList (name.toList ++ rest)) := by
  rcases isTagChar_of_isTagName h with ⟨hne, hchars⟩
  cases heq : name.toList with
  | nil => exact absurd heq hne
  | cons c cs =>
      have hc := hchars c (by simp [heq])
      unfold Piece.ofTag
      split
      · rename_i hfirst
        cases hfirst
        cases hc
      · rename_i hfirst
        cases hfirst
        cases hc
      · rfl

/-- A bare tag name opens an element. -/
theorem ofTag_opening {name : String} (h : isTagName name = true) :
    Piece.ofTag name.toList = .opening name := by
  have hslash : '/' ∉ name.toList := not_mem_of_isTagName h rfl
  have hnone : Text.dropSuffix? ['/'] name.toList = none := by
    rw [Text.dropSuffix?, List.reverse_singleton]
    cases heq : name.toList.reverse with
    | nil => rfl
    | cons c cs =>
        have hmem : c ∈ name.toList := by
          rw [← List.mem_reverse, heq]
          exact List.mem_cons_self
        have hne : '/' ≠ c := fun hc => hslash (hc ▸ hmem)
        simp [Text.dropPrefix?, hne]
  have htag := ofTag_name h []
  rw [List.append_nil, hnone] at htag
  simpa using htag

/-- A name before a slash is an empty element. -/
theorem ofTag_single {name : String} (h : isTagName name = true) :
    Piece.ofTag (name.toList ++ ['/']) = .single name := by
  have hsome : Text.dropSuffix? ['/'] (name.toList ++ ['/']) = some name.toList := by
    simp [Text.dropSuffix?, Text.dropPrefix?]
  rw [ofTag_name h, hsome]
  simp

/-! ## One tag -/

/-- Whether a text of blank characters means nothing at a place. -/
def Place.isLayout : Place → Bool
  | .inCell .. => false
  | _ => true

theorem Place.next?_space {place : Place} (h : place.isLayout = true) {ws : List Char}
    (hws : ws.all Text.isBlank = true) : place.next? (.text ws) = some place := by
  cases place <;> first | cases h; done | simp [next?, Piece.isSpace, hws]

namespace Reader

/-- The reader between tags. -/
def standing (place : Place) : Reader :=
  ⟨some place, [], false⟩

theorem after_cons (r : Reader) (c : Char) (cs : List Char) :
    r.after (c :: cs) = (r.next c).after cs :=
  rfl

theorem after_append (r : Reader) (as bs : List Char) :
    r.after (as ++ bs) = (r.after as).after bs :=
  List.foldl_append

/-- Text between tags is held until the next tag. -/
theorem after_text {place : Option Place} {held cs : List Char} (h : '<' ∉ cs) :
    after ⟨place, held, false⟩ cs = ⟨place, held ++ cs, false⟩ := by
  induction cs generalizing held with
  | nil => simp [after]
  | cons c cs ih =>
      rcases List.ne_and_not_mem_of_not_mem_cons h with ⟨hc, hcs⟩
      have hstep : next ⟨place, held, false⟩ c = ⟨place, held ++ [c], false⟩ := by
        simp [next, Ne.symm hc]
      rw [after_cons, hstep, ih hcs, List.append_assoc]
      rfl

/-- Inside a tag everything up to its end is held. -/
theorem after_inTag {place : Option Place} {held cs : List Char} (hopen : '<' ∉ cs)
    (hclose : '>' ∉ cs) : after ⟨place, held, true⟩ cs = ⟨place, held ++ cs, true⟩ := by
  induction cs generalizing held with
  | nil => simp [after]
  | cons c cs ih =>
      rcases List.ne_and_not_mem_of_not_mem_cons hopen with ⟨hc, hcs⟩
      rcases List.ne_and_not_mem_of_not_mem_cons hclose with ⟨hd, hds⟩
      have hstep : next ⟨place, held, true⟩ c = ⟨place, held ++ [c], true⟩ := by
        simp [next, Ne.symm hc, Ne.symm hd]
      rw [after_cons, hstep, ih hcs hds, List.append_assoc]
      rfl

def bracketed (tag : List Char) : List Char :=
  '<' :: (tag ++ ['>'])

/-- A tag after some text: the text counts first, then the tag. -/
theorem after_textAndTag {p q : Place} {text tag : List Char} (htext : '<' ∉ text)
    (hopen : '<' ∉ tag) (hclose : '>' ∉ tag)
    (hq : placeAfterText ⟨some p, text, false⟩ = some q) :
    (standing p).after (text ++ bracketed tag) = ⟨q.next? (.ofTag tag), [], false⟩ := by
  have hheld : (standing p).after text = ⟨some p, text, false⟩ := after_text htext
  have hbracket : next ⟨some p, text, false⟩ '<' = ⟨some q, [], true⟩ := by
    simp [next, hq]
  have htag : after ⟨some q, [], true⟩ tag = ⟨some q, tag, true⟩ := after_inTag hopen hclose
  rw [bracketed, after_append, hheld, after_cons, hbracket, after_append, htag]
  simp [after, next]

/-- A tag after blank characters, between elements. -/
theorem after_tag {p : Place} (hp : p.isLayout = true) {ws tag : List Char}
    (hws : ws.all Text.isBlank = true) (hopen : '<' ∉ tag) (hclose : '>' ∉ tag) :
    (standing p).after (ws ++ bracketed tag) = ⟨p.next? (.ofTag tag), [], false⟩ := by
  have hspace : '<' ∉ ws := by
    intro hmem
    have hblank := List.all_eq_true.1 hws _ hmem
    cases hblank
  refine after_textAndTag hspace hopen hclose ?_
  -- no space at all is no text, so the place has nothing to say about it
  cases ws with
  | nil => rfl
  | cons c cs => exact Place.next?_space hp hws

variable {p q : Place} {ws : List Char} {name : String}

/-- White space and a start tag lead to the place inside the element. -/
theorem after_startTag (hp : p.isLayout = true) (hws : ws.all Text.isBlank = true)
    (hname : isTagName name = true) (hq : p.next? (.opening name) = some q) :
    (standing p).after (ws ++ (startTag name).toList) = standing q := by
  have htext : (startTag name).toList = bracketed name.toList := by
    simp [startTag, bracketed]
  rw [htext, after_tag hp hws (not_mem_of_isTagName hname rfl) (not_mem_of_isTagName hname rfl),
    ofTag_opening hname, hq]
  rfl

/-- White space and an end tag lead to the place after the closed element. -/
theorem after_endTag (hp : p.isLayout = true) (hws : ws.all Text.isBlank = true)
    (hname : isTagName name = true) (hq : p.next? (.closing name) = some q) :
    (standing p).after (ws ++ (endTag name).toList) = standing q := by
  have htext : (endTag name).toList = bracketed ('/' :: name.toList) := by
    simp [endTag, bracketed]
  have hopen : '<' ∉ '/' :: name.toList := by simpa using not_mem_of_isTagName hname rfl
  have hclose : '>' ∉ '/' :: name.toList := by simpa using not_mem_of_isTagName hname rfl
  rw [htext, after_tag hp hws hopen hclose, ofTag_closing, hq]
  rfl

/-- White space and an empty element lead to the place after it. -/
theorem after_emptyElement (hp : p.isLayout = true) (hws : ws.all Text.isBlank = true)
    (hname : isTagName name = true) (hq : p.next? (.single name) = some q) :
    (standing p).after (ws ++ (emptyElement name).toList) = standing q := by
  have htext : (emptyElement name).toList = bracketed (name.toList ++ ['/']) := by
    simp [emptyElement, bracketed]
  have hopen : '<' ∉ name.toList ++ ['/'] := by simpa using not_mem_of_isTagName hname rfl
  have hclose : '>' ∉ name.toList ++ ['/'] := by simpa using not_mem_of_isTagName hname rfl
  rw [htext, after_tag hp hws hopen hclose, ofTag_single hname, hq]
  rfl

end Reader

/-! ## Cells and rows -/

/-- What a cell reads back as: its name, and its text unless it is null. -/
def cell : String × Json → String × Option String
  | (name, .null) => (name, none)
  | (name, v) => (name, some v.text)

/-- What a row reads back as. -/
def row (rowTag : String) (r : Record) : Row :=
  ⟨rowTag, r.toList.map cell⟩

/-- A value other than null is written as text between tags, and read back as this text. -/
theorem cellLine_of_ne_null {v : Json} (h : v ≠ .null) (name : String) :
    cellLine (name, v) = "    " ++ startTag name ++ escapedText v.text ++ endTag name ∧
      cell (name, v) = (name, some v.text) := by
  cases v with
  | null => exact absurd rfl h
  | _ => exact ⟨rfl, rfl⟩

namespace Reader

variable {e : Elements} {rowTag : String}

/-- The text of a cell is held until its end. -/
theorem placeAfterText_escaped (r : Row) (name : String) (text : List Char) :
    placeAfterText ⟨some (.inCell e r name []), text.flatMap escapedChar, false⟩ =
      some (.inCell e r name text) := by
  have hundone := unescaped?_escaped text
  cases hempty : (text.flatMap escapedChar).isEmpty with
  | true =>
      -- only an empty text is written as nothing
      rw [List.isEmpty_iff.1 hempty] at hundone
      cases hundone
      rfl
  | false => simp [placeAfterText, hempty, Place.next?, hundone]

/-- The line of a cell adds the cell to the row that is open. -/
theorem after_cellLine {r : Row} {c : String × Json} (hname : isTagName c.1 = true) :
    (standing (.inRow e r)).after ('\n' :: (cellLine c).toList) =
      standing (.inRow e ⟨r.tag, r.cells ++ [cell c]⟩) := by
  rcases c with ⟨name, v⟩
  have hws : ['\n', ' ', ' ', ' ', ' '].all Text.isBlank = true := rfl
  by_cases hv : v = .null
  -- null is one empty tag; all else is a text between two tags
  · subst hv
    have htext : '\n' :: (cellLine (name, .null)).toList =
        ['\n', ' ', ' ', ' ', ' '] ++ (emptyElement name).toList := by
      simp [cellLine]
    rw [htext]
    exact after_emptyElement rfl hws hname rfl
  · rcases cellLine_of_ne_null hv name with ⟨hline, hcell⟩
    have htext : '\n' :: (cellLine (name, v)).toList =
        (['\n', ' ', ' ', ' ', ' '] ++ (startTag name).toList) ++
          (v.text.toList.flatMap escapedChar ++ bracketed ('/' :: name.toList)) := by
      simp [hline, escapedText, endTag, bracketed]
    have hopen : '<' ∉ '/' :: name.toList := by simpa using not_mem_of_isTagName hname rfl
    have hclose : '>' ∉ '/' :: name.toList := by simpa using not_mem_of_isTagName hname rfl
    have hstart : (standing (.inRow e r)).after
        (['\n', ' ', ' ', ' ', ' '] ++ (startTag name).toList) =
          standing (.inCell e r name []) :=
      after_startTag rfl hws hname rfl
    rw [htext, after_append, hstart,
      after_textAndTag (lt_not_mem_escaped _) hopen hclose (placeAfterText_escaped r name _),
      ofTag_closing, hcell]
    simp [Place.next?, standing]

def following (ls : List String) : List Char :=
  ls.flatMap fun l => '\n' :: l.toList

theorem following_append (ls ms : List String) :
    following (ls ++ ms) = following ls ++ following ms :=
  List.flatMap_append

theorem toList_lines_cons (l : String) (ls : List String) :
    (lines (l :: ls)).toList = l.toList ++ following ls := by
  induction ls generalizing l with
  | nil => simp [following]
  | cons m ls ih =>
      rw [toList_lines_cons_cons, ih]
      simp [following]

/-- The lines of the cells add the cells to the row that is open. -/
theorem after_cellLines {r : Row} {cells : List (String × Json)}
    (hnames : ∀ c ∈ cells, isTagName c.1 = true) :
    (standing (.inRow e r)).after (following (cells.map cellLine)) =
      standing (.inRow e ⟨r.tag, r.cells ++ cells.map cell⟩) := by
  induction cells generalizing r with
  | nil => simp [following, after]
  | cons c cells ih =>
      have hfirst := @after_cellLine e r c (hnames c List.mem_cons_self)
      have hrest := @ih ⟨r.tag, r.cells ++ [cell c]⟩
        (fun d hd => hnames d (List.mem_cons_of_mem c hd))
      rw [List.append_assoc] at hrest
      rw [List.map_cons, following, List.flatMap_cons, after_append, hfirst]
      exact hrest

/-- The lines of a row add the row to the root that is open. -/
theorem after_rowLines {r : Record} (htag : isTagName rowTag = true)
    (hnames : ∀ c ∈ r.toList, isTagName c.1 = true) :
    (standing (.inRoot e)).after (following (rowLines rowTag r)) =
      standing (.inRoot ⟨e.root, e.rows ++ [row rowTag r]⟩) := by
  have hws : ['\n', ' ', ' '].all Text.isBlank = true := rfl
  have htext : following (rowLines rowTag r) =
      (['\n', ' ', ' '] ++ (startTag rowTag).toList) ++
        (following (r.toList.map cellLine) ++ (['\n', ' ', ' '] ++ (endTag rowTag).toList)) := by
    simp [following, rowLines]
  have hstart : (standing (.inRoot e)).after (['\n', ' ', ' '] ++ (startTag rowTag).toList) =
      standing (.inRow e ⟨rowTag, []⟩) :=
    after_startTag rfl hws htag rfl
  have hcells := @after_cellLines e ⟨rowTag, []⟩ r.toList hnames
  have hend : (Place.inRow e (row rowTag r)).next? (.closing rowTag) =
      some (.inRoot ⟨e.root, e.rows ++ [row rowTag r]⟩) := by
    simp [Place.next?, row]
  rw [htext, after_append, hstart, after_append, hcells]
  exact after_endTag rfl hws htag hend

/-- The lines of all rows add the rows to the root that is open. -/
theorem after_rows {rows : List Record} (htag : isTagName rowTag = true)
    (hnames : ∀ r ∈ rows, ∀ c ∈ r.toList, isTagName c.1 = true) :
    (standing (.inRoot e)).after (following (rows.flatMap (rowLines rowTag))) =
      standing (.inRoot ⟨e.root, e.rows ++ rows.map (row rowTag)⟩) := by
  induction rows generalizing e with
  | nil => simp [following, after]
  | cons r rows ih =>
      have hfirst := @after_rowLines e rowTag r htag (hnames r List.mem_cons_self)
      have hrest := @ih ⟨e.root, e.rows ++ [row rowTag r]⟩
        (fun s hs => hnames s (List.mem_cons_of_mem r hs))
      rw [List.append_assoc] at hrest
      rw [List.flatMap_cons, following_append, after_append, hfirst]
      exact hrest

/-! ## The whole text -/

/-- The declaration, if there is one, stands before the same lines. -/
theorem toList_xmlLines (rootTag rowTag : String) (declaration : Bool) (rows : List Record) :
    (lines (xmlLines rootTag rowTag declaration rows)).toList =
      (if declaration then declarationLine.toList ++ ['\n'] else []) ++
        (lines (xmlLines rootTag rowTag false rows)).toList := by
  cases declaration with
  | false => simp
  | true =>
      have hfirst : xmlLines rootTag rowTag true rows =
          declarationLine :: xmlLines rootTag rowTag false rows := by
        simp [xmlLines]
      have hsecond : ∃ l ls, xmlLines rootTag rowTag false rows = l :: ls := by
        cases rows <;> exact ⟨_, _, rfl⟩
      rcases hsecond with ⟨l, ls, hlines⟩
      rw [hfirst, toList_lines_cons, hlines, toList_lines_cons]
      simp [following]

theorem after_declarationLine : initial.after declarationLine.toList = standing .prolog := by
  decide +kernel

/-- The elements alone, at the start of a text or after the declaration. -/
theorem after_elements {p : Place} (hp : p = .start ∨ p = .prolog) {ws : List Char}
    (hws : ws.all Text.isBlank = true) {rootTag : String} {rows : List Record}
    (hroot : isTagName rootTag = true) (hrow : isTagName rowTag = true)
    (hnames : ∀ r ∈ rows, ∀ c ∈ r.toList, isTagName c.1 = true) :
    (standing p).after (ws ++ (lines (xmlLines rootTag rowTag false rows)).toList) =
      standing (.finished ⟨rootTag, rows.map (row rowTag)⟩) := by
  have hlayout : p.isLayout = true := by rcases hp with rfl | rfl <;> rfl
  cases rows with
  | nil =>
      -- without rows the root is one empty tag
      have hlines : xmlLines rootTag rowTag false [] = [emptyElement rootTag] := rfl
      have hsingle : p.next? (.single rootTag) = some (.finished ⟨rootTag, []⟩) := by
        rcases hp with rfl | rfl <;> rfl
      rw [hlines, toList_lines_cons, following, List.flatMap_nil, List.append_nil]
      exact after_emptyElement hlayout hws hroot hsingle
  | cons r rows =>
      have hlines : xmlLines rootTag rowTag false (r :: rows) =
          startTag rootTag :: ((r :: rows).flatMap (rowLines rowTag) ++ [endTag rootTag]) := rfl
      have hopening : p.next? (.opening rootTag) = some (.inRoot ⟨rootTag, []⟩) := by
        rcases hp with rfl | rfl <;> rfl
      have hstart := after_startTag hlayout hws hroot hopening
      have hrows := @after_rows ⟨rootTag, []⟩ rowTag (r :: rows) hrow hnames
      have hlast : following [endTag rootTag] = ['\n'] ++ (endTag rootTag).toList := by
        simp [following]
      have hclosing : (Place.inRoot ⟨rootTag, (r :: rows).map (row rowTag)⟩).next?
          (.closing rootTag) = some (.finished ⟨rootTag, (r :: rows).map (row rowTag)⟩) := by
        simp [Place.next?]
      rw [hlines, toList_lines_cons, ← List.append_assoc, after_append, hstart,
        following_append, after_append, hrows, hlast]
      exact after_endTag rfl rfl hroot hclosing

end Reader

/-- The written lines read back as the root tag and the rows, with or without the declaration. -/
theorem read?_lines {rootTag rowTag : String} {rows : List Record}
    (hroot : isTagName rootTag = true) (hrow : isTagName rowTag = true)
    (hnames : ∀ r ∈ rows, ∀ c ∈ r.toList, isTagName c.1 = true) (declaration : Bool) :
    read? (lines (xmlLines rootTag rowTag declaration rows)) =
      some ⟨rootTag, rows.map (row rowTag)⟩ := by
  have hafter : Reader.initial.after (lines (xmlLines rootTag rowTag declaration rows)).toList =
      Reader.standing (.finished ⟨rootTag, rows.map (row rowTag)⟩) := by
    rw [Reader.toList_xmlLines]
    cases declaration with
    | false =>
        exact @Reader.after_elements rowTag .start (.inl rfl) [] rfl rootTag rows hroot hrow hnames
    | true =>
        rw [if_pos rfl, List.append_assoc, Reader.after_append, Reader.after_declarationLine]
        exact Reader.after_elements (.inr rfl) rfl hroot hrow hnames
  rw [read?, hafter]
  rfl

end Markup

/-! ## What is written for rows -/

/-- The options are accepted with tag names only. -/
theorem isTagName_of_tagOption {options : Members} {key default tag : String}
    (h : tagOption options key default = .ok tag) : isTagName tag = true := by
  rcases Except.bind_eq_ok_iff.1 h with ⟨found, _, hfound⟩
  by_cases hname : isTagName found = true
  · simp only [hname, if_true, Except.ok.injEq] at hfound
    exact hfound ▸ hname
  · simp [hname] at hfound

/-- Columns with tag names as names can all be written. -/
theorem badColumn?_eq_none {columns : List String} (h : ∀ name ∈ columns, isTagName name = true) :
    badColumn? columns = none := by
  rw [badColumn?, List.find?_eq_none]
  intro entry hentry
  simp [h entry.1 (List.fst_mem_of_mem_zipIdx hentry)]

/-- Whatever is written are the lines for two valid tags. -/
theorem exists_tags_of_xml {rows : List Record} {options : Members} {columns : List String}
    {text : String} (h : xml rows options columns = .ok text) :
    ∃ rootTag rowTag declaration, isTagName rootTag = true ∧ isTagName rowTag = true ∧
      text = lines (xmlLines rootTag rowTag declaration rows) := by
  rcases Except.bind_eq_ok_iff.1 h with ⟨rootTag, hroot, hrest⟩
  rcases Except.bind_eq_ok_iff.1 hrest with ⟨rowTag, hrow, hrest⟩
  rcases Except.bind_eq_ok_iff.1 hrest with ⟨declaration, _, hlines⟩
  refine ⟨rootTag, rowTag, declaration, isTagName_of_tagOption hroot, isTagName_of_tagOption hrow,
    ?_⟩
  cases hbad : badColumn? columns with
  | none =>
      simp only [hbad, Except.ok.injEq] at hlines
      exact hlines.symm
  | some bad => simp [hbad] at hlines

/--
Rows of valid names, written as elements, read back: the root and every row have their tags, and
every cell has its name and its text, unless it is null. So rows with other names, with other texts
or with an empty text in place of null are written as another text.
-/
theorem xml_reads_back :
    (∀ {rows : List Record} {options : Members} {columns : List String}
        {rootTag rowTag : String} {declaration : Bool},
      tagOption options "root_tag" "rows" = .ok rootTag →
      tagOption options "row_tag" "row" = .ok rowTag →
      boolOption options "declaration" false = .ok declaration →
      (∀ name ∈ columns, isTagName name = true) →
      (∀ r ∈ rows, ∀ c ∈ r.toList, isTagName c.1 = true) →
        ∃ text, xml rows options columns = .ok text ∧
          Markup.read? text = some ⟨rootTag, rows.map (Markup.row rowTag)⟩) ∧
    ∀ {rows rows' : List Record} {options options' : Members} {columns columns' : List String}
        {text : String},
      (∀ r ∈ rows, ∀ c ∈ r.toList, isTagName c.1 = true) →
      (∀ r ∈ rows', ∀ c ∈ r.toList, isTagName c.1 = true) →
      xml rows options columns = .ok text → xml rows' options' columns' = .ok text →
        rows.map (fun r => r.toList.map Markup.cell) =
          rows'.map fun r => r.toList.map Markup.cell := by
  constructor
  · intro rows options columns rootTag rowTag declaration hroot hrow hdeclaration hcolumns hnames
    have htext : xml rows options columns =
        .ok (lines (xmlLines rootTag rowTag declaration rows)) := by
      rw [xml, hroot, hrow, hdeclaration, badColumn?_eq_none hcolumns]
      rfl
    exact ⟨_, htext, Markup.read?_lines (isTagName_of_tagOption hroot)
      (isTagName_of_tagOption hrow) hnames declaration⟩
  · intro rows rows' options options' columns columns' text hnames hnames' htext htext'
    rcases exists_tags_of_xml htext with ⟨rootTag, rowTag, declaration, hroot, hrow, rfl⟩
    rcases exists_tags_of_xml htext' with ⟨rootTag', rowTag', declaration', hroot', hrow', hsame⟩
    -- the two texts are one, so the reader finds the same cells in both
    have hread := Markup.read?_lines hroot hrow hnames declaration
    rw [hsame, Markup.read?_lines hroot' hrow' hnames' declaration'] at hread
    have hrows := congrArg Markup.Elements.rows (Option.some.inj hread)
    have hcells := congrArg (List.map Markup.Row.cells) hrows
    simpa [Markup.row, Function.comp_def] using hcells.symm

/-- Rows whose cells hold markup, an empty text and nothing; all tags have one name. -/
def markedUp : List Record :=
  [⟨[("a", .string "</a>\n  <a/> &amp; \"b\""), ("a", .string "")]⟩, ⟨[("a", .null)]⟩]

/-- Text that looks like tags comes back as text, and absent, empty and filled cells stay apart. -/
theorem xml_reads_back_of_markedUp :
    tagOption [("root_tag", .string "a"), ("row_tag", .string "a")] "root_tag" "rows" = .ok "a" ∧
    tagOption [("root_tag", .string "a"), ("row_tag", .string "a")] "row_tag" "row" = .ok "a" ∧
    (∀ r ∈ markedUp, ∀ c ∈ r.toList, isTagName c.1 = true) ∧
    (∃ text, xml markedUp [("root_tag", .string "a"), ("row_tag", .string "a")] ["a"] = .ok text ∧
      Markup.read? text = some ⟨"a",
        [⟨"a", [("a", some "</a>\n  <a/> &amp; \"b\""), ("a", some "")]⟩, ⟨"a", [("a", none)]⟩]⟩) ∧
    xml [⟨[("a", .string "")]⟩] [] ["a"] ≠ xml [⟨[("a", .null)]⟩] [] ["a"] := by
  have hroot : tagOption [("root_tag", .string "a"), ("row_tag", .string "a")] "root_tag" "rows" =
      .ok "a" := by rfl
  have hrow : tagOption [("root_tag", .string "a"), ("row_tag", .string "a")] "row_tag" "row" =
      .ok "a" := by rfl
  have hnames : ∀ r ∈ markedUp, ∀ c ∈ r.toList, isTagName c.1 = true := by decide +kernel
  have hcolumns : ∀ name ∈ ["a"], isTagName name = true := by decide
  refine ⟨hroot, hrow, hnames, xml_reads_back.1 hroot hrow rfl hcolumns hnames, ?_⟩
  intro hsame
  have hempty : ∃ text, xml [⟨[("a", .string "")]⟩] [] ["a"] = .ok text := ⟨_, rfl⟩
  rcases hempty with ⟨text, htext⟩
  have hcells := xml_reads_back.2 (by decide) (by decide) htext (hsame ▸ htext)
  cases hcells

end Output
end Gleaner
