import Gleaner.Html.Construction
/-!
# Rules for the pieces of hypertext

What a piece means depends on the part of the document in which it is found.

* `Verdict` is the outcome of a rule: the piece is settled, or is looked at again in another part;
* `inBody`, `inTable`, `inHead` and the others are the rules of one part each;
* `byForeign` holds the rules inside of foreign elements;
* `Construction.take` settles a piece.
-/

namespace Gleaner
namespace Html

inductive Verdict where
  -- The piece is settled.
  | done (c : Construction)
  -- The piece has to be looked at again.
  | again (c : Construction)

def Verdict.map (f : Construction → Construction) : Verdict → Verdict
  | .done c => .done (f c)
  | .again c => .again (f c)

namespace Rules

def headings : List String :=
  ["h1", "h2", "h3", "h4", "h5", "h6"]

def tableParts : List String :=
  ["caption", "col", "colgroup", "tbody", "td", "tfoot", "th", "thead", "tr"]

def headNames : List String :=
  ["base", "basefont", "bgsound", "link", "meta", "noframes", "script", "style", "template",
    "title"]

/-- The beginnings of public identifiers that ask for the old rules. -/
def oldBeginnings : List String :=
  ["-//ietf//dtd html", "-//w3c//dtd html 3", "-//w3c//dtd html 4.0 frameset//",
    "-//w3c//dtd html 4.0 transitional//", "-//w3c//dtd html experimental", "-//w3c//dtd w3 html",
    "-//w3o//dtd w3 html"]

/-- The beginnings of public identifiers that ask for the old rules without a system identifier. -/
def oldWithoutSystem : List String :=
  ["-//w3c//dtd html 4.01 frameset//", "-//w3c//dtd html 4.01 transitional//"]

def isOld (d : Doctype) : Bool :=
  let identifier := (Text.asciiLower (d.publicId.getD "")).toList
  let begins (fronts : List String) : Bool :=
    fronts.any fun front => (Text.dropPrefix? front.toList identifier).isSome
  d.broken || d.name != some "html" || begins oldBeginnings ||
    (d.systemId.isNone && begins oldWithoutSystem) || identifier == "html".toList

/-- Add the document type to the document and see what it asks for. -/
def addDoctype (c : Construction) (d : Doctype) : Construction :=
  let (n, made) := c.draft.make (.doctype (d.name.getD ""))
  { c with draft := made.attach (.endOf Draft.root) n, isOld := isOld d, mode := .beforeHtml }

def initial (c : Construction) : Token → Verdict
  | .space _ => .done c
  | .comment s => .done (c.insertCommentAt Draft.root s)
  | .doctype d => .done (addDoctype c d)
  | _ => .again { c with isOld := true, mode := .beforeHtml }

def addOutermost (c : Construction) (tag : Tag) : Construction :=
  { c.insert tag with mode := .beforeHead }

def beforeHtml (c : Construction) : Token → Verdict
  | .space _ | .doctype _ => .done c
  | .comment s => .done (c.insertCommentAt Draft.root s)
  | .start tag =>
    if tag.name = "html" then .done (addOutermost c tag)
    else .again (addOutermost c ⟨"html", [], false⟩)
  | .stop name =>
    if ["head", "body", "html", "br"].contains name then
      .again (addOutermost c ⟨"html", [], false⟩)
    else .done c
  | _ => .again (addOutermost c ⟨"html", [], false⟩)

/-- Give the outermost element more attributes, unless a template is open. -/
def mergeOutermost (c : Construction) (tag : Tag) : Construction :=
  if c.hasOpen ["template"] then c else c.mergeInto c.opened.getLast? tag

def addHead (c : Construction) (tag : Tag) : Construction :=
  let grown := c.insert tag
  { grown with head := grown.opened.head?, mode := .inHead }

def beforeHead (c : Construction) : Token → Verdict
  | .space _ | .doctype _ => .done c
  | .comment s => .done (c.insertComment s)
  | .start tag =>
    if tag.name = "html" then .done (mergeOutermost c tag)
    else if tag.name = "head" then .done (addHead c tag)
    else .again (addHead c ⟨"head", [], false⟩)
  | .stop name =>
    if ["head", "body", "html", "br"].contains name then .again (addHead c ⟨"head", [], false⟩)
    else .done c
  | _ => .again (addHead c ⟨"head", [], false⟩)

def openTemplate (c : Construction) (tag : Tag) : Construction :=
  { (c.insert tag).addBorder with
    framesAllowed := false, mode := .inTemplate, templates := .inTemplate :: c.templates }

def closeTemplate (c : Construction) : Construction :=
  if c.hasOpen ["template"] then
    let closed := (c.closeAllImplied.popThrough ["template"]).clearToBorder
    { closed with templates := c.templates.drop 1 }.resetMode
  else c

def inHead (c : Construction) (t : Token) : Verdict :=
  match t with
  | .space s => .done (c.insertText s)
  | .comment s => .done (c.insertComment s)
  | .doctype _ => .done c
  | .start tag =>
    if tag.name = "html" then .done (mergeOutermost c tag)
    else if ["base", "basefont", "bgsound", "link", "meta"].contains tag.name then
      .done (c.insertClosed tag)
    else if tag.name = "title" then .done (c.insertWithText tag (.references "title"))
    else if ["noframes", "style", "noscript"].contains tag.name then
      .done (c.insertWithText tag (.plain tag.name))
    else if tag.name = "script" then .done (c.insertWithText tag .script)
    else if tag.name = "template" then .done (openTemplate c tag)
    else if tag.name = "head" then .done c
    else .again { c.pop with mode := .afterHead }
  | .stop name =>
    if name = "head" then .done { c.pop with mode := .afterHead }
    else if name = "template" then .done (closeTemplate c)
    else if ["body", "html", "br"].contains name then .again { c.pop with mode := .afterHead }
    else .done c
  | _ => .again { c.pop with mode := .afterHead }

def addBody (c : Construction) (tag : Tag) : Construction :=
  { c.insert tag with mode := .inBody }

def afterHead (c : Construction) (t : Token) : Verdict :=
  match t with
  | .space s => .done (c.insertText s)
  | .comment s => .done (c.insertComment s)
  | .doctype _ => .done c
  | .start tag =>
    if tag.name = "html" then .done (mergeOutermost c tag)
    else if tag.name = "body" then .done { addBody c tag with framesAllowed := false }
    else if tag.name = "frameset" then .done { c.insert tag with mode := .inFrameset }
    else if headNames.contains tag.name then
      match c.head with
      | some n =>
        (inHead { c with opened := n :: c.opened } t).map fun grown => grown.shut n
      | none => inHead c t
    else if tag.name = "head" then .done c
    else .again (addBody c ⟨"body", [], false⟩)
  | .stop name =>
    if name = "template" then inHead c t
    else if ["body", "html", "br"].contains name then .again (addBody c ⟨"body", [], false⟩)
    else .done c
  | _ => .again (addBody c ⟨"body", [], false⟩)

/-- Open a list item or a term; an item of the same kind that is open ends. -/
def openItem (c : Construction) (names : List String) (tag : Tag) : Construction :=
  let calm := { c with framesAllowed := false }
  let closed := search calm calm.opened
  closed.closeOpenParagraph.insert tag
where
  -- Search an open item among the given open elements.
  search (c : Construction) : List Nat → Construction
    | [] => c
    | n :: rest =>
      match c.draft.element? n with
      | none => c
      | some e =>
        if e.isAmong names then (c.closeImpliedBut [e.name]).popThrough [e.name]
        else if Construction.isSpecial e && !e.isAmong ["address", "div", "p"] then c
        else search c rest

/-- Settle what the template in progress leaves at the end of the document. -/
def finishTemplate (c : Construction) : Verdict :=
  if c.hasOpen ["template"] then
    let closed := (c.popThrough ["template"]).clearToBorder
    .again { closed with templates := c.templates.drop 1 }.resetMode
  else .done c

def blockNames : List String :=
  ["address", "article", "aside", "blockquote", "center", "details", "dialog", "dir", "div", "dl",
    "fieldset", "figcaption", "figure", "footer", "header", "hgroup", "main", "menu", "nav", "ol",
    "p", "section", "summary", "ul"]

def closableNames : List String :=
  ["address", "article", "aside", "blockquote", "button", "center", "details", "dialog", "dir",
    "div", "dl", "fieldset", "figcaption", "figure", "footer", "header", "hgroup", "listing",
    "main", "menu", "nav", "ol", "pre", "section", "summary", "ul"]

def formattingNames : List String :=
  ["b", "big", "code", "em", "font", "i", "s", "small", "strike", "strong", "tt", "u"]

def isHidden (tag : Tag) : Bool :=
  (tag.attributes.lookup "type").any fun v => Text.asciiLower v == "hidden"

def openPlain (c : Construction) (tag : Tag) : Construction :=
  c.reopenFormatting.insert tag

def closeBlock (c : Construction) (names : List String) : Construction :=
  if c.inScope names then c.closeImplied.popThrough names else c

def closeForm (c : Construction) : Construction :=
  if c.hasOpen ["template"] then closeBlock c ["form"]
  else
    match c.form with
    | none => c
    | some n =>
      let free := { c with form := none }
      if free.reaches Construction.bounds (fun e => e.isNamed "form") free.opened &&
          free.opened.contains n then
        free.closeImplied.shut n
      else free

def openForm (c : Construction) (tag : Tag) : Construction :=
  let inTemplate := c.hasOpen ["template"]
  if c.form.isSome && !inTemplate then c
  else
    let grown := c.closeOpenParagraph.insert tag
    if inTemplate then grown else { grown with form := grown.opened.head? }

/-- Open a link; one that is in force ends. -/
def openLink (c : Construction) (tag : Tag) : Construction :=
  let settled :=
    match c.formatting? "a" with
    | some (n, _) => ((c.adopt "a").forget n).shut n
    | none => c
  settled.reopenFormatting.insertFormatting tag

def insertForeign (c : Construction) (vocabulary : Vocabulary) (tag : Tag) : Construction :=
  let grown := c.enter (foreignElement vocabulary tag)
  if tag.closed then grown.pop else grown

def selectMode (c : Construction) : Mode :=
  if [Mode.inTable, .inCaption, .inTableBody, .inRow, .inCell].contains c.mode then
    .inSelectInTable
  else .inSelect

def replaceBody (c : Construction) (tag : Tag) : Construction :=
  match c.opened.reverse with
  | outermost :: second :: _ =>
    if c.isAmong ["body"] second && c.framesAllowed then
      let bare := { c with draft := c.draft.detach second, opened := [outermost] }
      { bare.insert tag with mode := .inFrameset }
    else c
  | _ => c

def mergeBody (c : Construction) (tag : Tag) : Construction :=
  match c.opened.reverse with
  | _ :: second :: _ =>
    if c.isAmong ["body"] second && !c.hasOpen ["template"] then
      { c.mergeInto (some second) tag with framesAllowed := false }
    else c
  | _ => c

def openInBody (c : Construction) (tag : Tag) : Verdict :=
  let name := tag.name
  let calm : Construction := { c with framesAllowed := false }
  if name = "html" then .done (mergeOutermost c tag)
  else if headNames.contains name then inHead c (.start tag)
  else if name = "body" then .done (mergeBody c tag)
  else if name = "frameset" then .done (replaceBody c tag)
  else if blockNames.contains name then .done (c.closeOpenParagraph.insert tag)
  else if headings.contains name then
    let closed := c.closeOpenParagraph
    .done ((if closed.currentIs headings then closed.pop else closed).insert tag)
  else if name = "pre" ∨ name = "listing" then
    .done { calm.closeOpenParagraph.insert tag with skipsLineFeed := true }
  else if name = "form" then .done (openForm c tag)
  else if name = "li" then .done (openItem c ["li"] tag)
  else if name = "dd" ∨ name = "dt" then .done (openItem c ["dd", "dt"] tag)
  else if name = "plaintext" then
    .done { c.closeOpenParagraph.insert tag with model := .endless }
  else if name = "button" then
    let closed := if c.inScope ["button"] then c.closeImplied.popThrough ["button"] else c
    .done { openPlain closed tag with framesAllowed := false }
  else if name = "a" then .done (openLink c tag)
  else if formattingNames.contains name then .done (c.reopenFormatting.insertFormatting tag)
  else if name = "nobr" then
    let ready := c.reopenFormatting
    let settled := if ready.inScope ["nobr"] then (ready.adopt "nobr").reopenFormatting else ready
    .done (settled.insertFormatting tag)
  else if ["applet", "marquee", "object"].contains name then
    .done (openPlain calm tag).addBorder
  else if name = "table" then
    let closed := if calm.isOld then calm else calm.closeOpenParagraph
    .done { closed.insert tag with mode := .inTable }
  else if ["area", "br", "embed", "img", "keygen", "wbr"].contains name then
    .done (openPlain calm tag).pop
  else if name = "image" then .done (openPlain calm { tag with name := "img" }).pop
  else if name = "input" then
    .done (openPlain (if isHidden tag then c else calm) tag).pop
  else if ["param", "source", "track"].contains name then .done (c.insertClosed tag)
  else if name = "hr" then .done (calm.closeOpenParagraph.insertClosed tag)
  else if name = "textarea" then
    .done { calm.insertWithText tag (.references "textarea") with skipsLineFeed := true }
  else if name = "xmp" then
    .done (calm.closeOpenParagraph.reopenFormatting.insertWithText tag (.plain "xmp"))
  else if name = "iframe" then .done (calm.insertWithText tag (.plain "iframe"))
  else if name = "noembed" ∨ name = "noscript" then
    .done (c.insertWithText tag (.plain name))
  else if name = "select" then
    .done { openPlain calm tag with mode := selectMode c }
  else if name = "optgroup" ∨ name = "option" then
    .done (openPlain (if c.currentIs ["option"] then c.pop else c) tag)
  else if name = "rb" ∨ name = "rtc" then
    .done ((if c.inScope ["ruby"] then c.closeImplied else c).insert tag)
  else if name = "rp" ∨ name = "rt" then
    .done ((if c.inScope ["ruby"] then c.closeImpliedBut ["rtc"] else c).insert tag)
  else if name = "math" then .done (insertForeign c.reopenFormatting .math tag)
  else if name = "svg" then .done (insertForeign c.reopenFormatting .svg tag)
  else if tableParts.contains name || name = "frame" || name = "head" then .done c
  else .done (openPlain c tag)

def closeInBody (c : Construction) (name : String) : Verdict :=
  if name = "template" then inHead c (.stop name)
  else if name = "body" then
    .done (if c.inScope ["body"] then { c with mode := .afterBody } else c)
  else if name = "html" then
    if c.inScope ["body"] then .again { c with mode := .afterBody } else .done c
  else if closableNames.contains name then .done (closeBlock c [name])
  else if name = "form" then .done (closeForm c)
  else if name = "p" then
    let ready := if c.inScopeOf Construction.boundsButtons ["p"] then c else c.insertNamed "p"
    .done ready.closeParagraph
  else if name = "li" then
    .done
      (if c.inScopeOf Construction.boundsItems ["li"] then
        (c.closeImpliedBut ["li"]).popThrough ["li"]
      else c)
  else if name = "dd" ∨ name = "dt" then
    .done (if c.inScope [name] then (c.closeImpliedBut [name]).popThrough [name] else c)
  else if headings.contains name then .done (closeBlock c headings)
  else if formattingNames.contains name ∨ name = "a" ∨ name = "nobr" then .done (c.adopt name)
  else if ["applet", "marquee", "object"].contains name then
    .done (if c.inScope [name] then (closeBlock c [name]).clearToBorder else c)
  else if name = "br" then
    .done (openPlain { c with framesAllowed := false } ⟨"br", [], false⟩).pop
  else .done (c.closeNamed name)

def inBody (c : Construction) : Token → Verdict
  | .null | .doctype _ => .done c
  | .space s => .done (c.reopenFormatting.insertText s)
  | .text s => .done { c.reopenFormatting.insertText s with framesAllowed := false }
  | .comment s => .done (c.insertComment s)
  | .start tag => openInBody c tag
  | .stop name => closeInBody c name
  | .finish => if c.templates.isEmpty then .done c else finishTemplate c

def inText (c : Construction) : Token → Verdict
  | .space s | .text s => .done (c.insertText s)
  | .stop _ => .done { c.pop with mode := c.resumed, model := .markup }
  | .finish => .again { c.pop with mode := c.resumed, model := .markup }
  | _ => .done c

def foster (c : Construction) (t : Token) : Verdict :=
  (inBody { c with fostering := true } t).map fun grown => { grown with fostering := false }

/-- Close elements until the innermost one can hold a part of a table. -/
def clearTo (c : Construction) (names : List String) : Construction :=
  c.popTo (names ++ ["template", "html"])

def closeTable (c : Construction) : Construction :=
  (c.popThrough ["table"]).resetMode

def besideTable (c : Construction) (t : Token) : Verdict :=
  foster c t

def openInTable (c : Construction) (tag : Tag) : Verdict :=
  let name := tag.name
  if name = "caption" then
    .done { (clearTo c ["table"]).addBorder.insert tag with mode := .inCaption }
  else if name = "colgroup" then
    .done { (clearTo c ["table"]).insert tag with mode := .inColumnGroup }
  else if name = "col" then
    .again { (clearTo c ["table"]).insertNamed "colgroup" with mode := .inColumnGroup }
  else if ["tbody", "tfoot", "thead"].contains name then
    .done { (clearTo c ["table"]).insert tag with mode := .inTableBody }
  else if ["td", "th", "tr"].contains name then
    .again { (clearTo c ["table"]).insertNamed "tbody" with mode := .inTableBody }
  else if name = "table" then
    if c.inScopeOf Construction.boundsTables ["table"] then .again (closeTable c) else .done c
  else if ["style", "script", "template"].contains name then inHead c (.start tag)
  else if name = "input" && isHidden tag then .done (c.insertClosed tag)
  else if name = "form" then
    if c.hasOpen ["template"] || c.form.isSome then .done c
    else
      let grown := c.insert tag
      .done { grown with form := grown.opened.head?, opened := c.opened }
  else besideTable c (.start tag)

def inTable (c : Construction) (t : Token) : Verdict :=
  match t with
  | .space _ | .text _ | .null =>
    if c.currentIs ["table", "tbody", "template", "tfoot", "thead", "tr"] then
      .again { c with pending := [], resumed := c.mode, mode := .inTableText }
    else besideTable c t
  | .comment s => .done (c.insertComment s)
  | .doctype _ => .done c
  | .start tag => openInTable c tag
  | .stop name =>
    if name = "table" then
      .done
        (if c.inScopeOf Construction.boundsTables ["table"] then closeTable c else c)
    else if tableParts.contains name || name = "body" || name = "html" then .done c
    else if name = "template" then inHead c t
    else besideTable c t
  | .finish => inBody c t

/-- Settle the text found in a table: white space stays, other text goes in front of the table. -/
def settlePending (c : Construction) : Construction :=
  let texts := c.pending.reverse
  let free := { c with pending := [], mode := c.resumed }
  if texts.all (·.1) then texts.foldl (fun c (_, s) => c.insertText s) free
  else
    texts.foldl
      (fun c (isBlank, s) =>
        match foster c (if isBlank then .space s else .text s) with
        | .done d | .again d => d)
      free

def inTableText (c : Construction) : Token → Verdict
  | .null => .done c
  | .space s => .done { c with pending := (true, s) :: c.pending }
  | .text s => .done { c with pending := (false, s) :: c.pending }
  | _ => .again (settlePending c)

def closeCaption (c : Construction) : Construction :=
  { (c.closeImplied.popThrough ["caption"]).clearToBorder with mode := .inTable }

def inCaption (c : Construction) (t : Token) : Verdict :=
  let isOpen := c.inScopeOf Construction.boundsTables ["caption"]
  match t with
  | .stop "caption" => .done (if isOpen then closeCaption c else c)
  | .start tag =>
    if tableParts.contains tag.name then if isOpen then .again (closeCaption c) else .done c
    else inBody c t
  | .stop name =>
    if name = "table" then if isOpen then .again (closeCaption c) else .done c
    else if tableParts.contains name || name = "body" || name = "html" then .done c
    else inBody c t
  | _ => inBody c t

def leaveColumns (c : Construction) : Verdict :=
  if c.currentIs ["colgroup"] then .again { c.pop with mode := .inTable } else .done c

def inColumnGroup (c : Construction) (t : Token) : Verdict :=
  match t with
  | .space s => .done (c.insertText s)
  | .comment s => .done (c.insertComment s)
  | .doctype _ => .done c
  | .start tag =>
    if tag.name = "html" then .done (mergeOutermost c tag)
    else if tag.name = "col" then .done (c.insertClosed tag)
    else if tag.name = "template" then inHead c t
    else leaveColumns c
  | .stop name =>
    if name = "colgroup" then
      .done (if c.currentIs ["colgroup"] then { c.pop with mode := .inTable } else c)
    else if name = "col" then .done c
    else if name = "template" then inHead c t
    else leaveColumns c
  | .finish => inBody c t
  | _ => leaveColumns c

def bodyNames : List String :=
  ["tbody", "tfoot", "thead"]

def leaveTableBody (c : Construction) : Verdict :=
  if c.inScopeOf Construction.boundsTables bodyNames then
    .again { (clearTo c bodyNames).pop with mode := .inTable }
  else .done c

def inTableBody (c : Construction) (t : Token) : Verdict :=
  match t with
  | .start tag =>
    if tag.name = "tr" then .done { (clearTo c bodyNames).insert tag with mode := .inRow }
    else if tag.name = "th" ∨ tag.name = "td" then
      .again { (clearTo c bodyNames).insertNamed "tr" with mode := .inRow }
    else if tableParts.contains tag.name then leaveTableBody c
    else inTable c t
  | .stop name =>
    if bodyNames.contains name then
      .done
        (if c.inScopeOf Construction.boundsTables [name] then
          { (clearTo c bodyNames).pop with mode := .inTable }
        else c)
    else if name = "table" then leaveTableBody c
    else if tableParts.contains name || name = "body" || name = "html" then .done c
    else inTable c t
  | _ => inTable c t

def closeRow (c : Construction) : Construction :=
  { (clearTo c ["tr"]).pop with mode := .inTableBody }

def inRow (c : Construction) (t : Token) : Verdict :=
  let isOpen := c.inScopeOf Construction.boundsTables ["tr"]
  match t with
  | .start tag =>
    if tag.name = "th" ∨ tag.name = "td" then
      .done { ((clearTo c ["tr"]).insert tag).addBorder with mode := .inCell }
    else if tableParts.contains tag.name then if isOpen then .again (closeRow c) else .done c
    else inTable c t
  | .stop name =>
    if name = "tr" then .done (if isOpen then closeRow c else c)
    else if name = "table" then if isOpen then .again (closeRow c) else .done c
    else if bodyNames.contains name then
      if c.inScopeOf Construction.boundsTables [name] && isOpen then .again (closeRow c)
      else .done c
    else if tableParts.contains name || name = "body" || name = "html" then .done c
    else inTable c t
  | _ => inTable c t

def closeCell (c : Construction) : Construction :=
  { (c.closeImplied.popThrough ["td", "th"]).clearToBorder with mode := .inRow }

def inCell (c : Construction) (t : Token) : Verdict :=
  match t with
  | .start tag =>
    if tableParts.contains tag.name then
      if c.inScopeOf Construction.boundsTables ["td", "th"] then .again (closeCell c) else .done c
    else inBody c t
  | .stop name =>
    if name = "td" ∨ name = "th" then
      .done
        (if c.inScopeOf Construction.boundsTables [name] then
          { (c.closeImplied.popThrough [name]).clearToBorder with mode := .inRow }
        else c)
    else if ["body", "caption", "col", "colgroup", "html"].contains name then .done c
    else if name = "table" || tableParts.contains name then
      if c.inScopeOf Construction.boundsTables [name] then .again (closeCell c) else .done c
    else inBody c t
  | _ => inBody c t

def closeSelect (c : Construction) : Construction :=
  (c.popThrough ["select"]).resetMode

def inSelect (c : Construction) (t : Token) : Verdict :=
  let isOpen := c.inScopeOf Construction.boundsSelects ["select"]
  let withoutOption := if c.currentIs ["option"] then c.pop else c
  let withoutGroup :=
    if withoutOption.currentIs ["optgroup"] then withoutOption.pop else withoutOption
  match t with
  | .space s | .text s => .done (c.insertText s)
  | .comment s => .done (c.insertComment s)
  | .null | .doctype _ => .done c
  | .start tag =>
    if tag.name = "html" then .done (mergeOutermost c tag)
    else if tag.name = "option" then .done (withoutOption.insert tag)
    else if tag.name = "optgroup" then .done (withoutGroup.insert tag)
    else if tag.name = "hr" then .done (withoutGroup.insertClosed tag)
    else if tag.name = "select" then .done (if isOpen then closeSelect c else c)
    else if ["input", "keygen", "textarea"].contains tag.name then
      if isOpen then .again (closeSelect c) else .done c
    else if tag.name = "script" ∨ tag.name = "template" then inHead c t
    else .done c
  | .stop name =>
    if name = "optgroup" then
      let inner :=
        if c.currentIs ["option"] && c.pop.currentIs ["optgroup"] then c.pop else c
      .done (if inner.currentIs ["optgroup"] then inner.pop else c)
    else if name = "option" then .done withoutOption
    else if name = "select" then .done (if isOpen then closeSelect c else c)
    else if name = "template" then inHead c t
    else .done c
  | .finish => inBody c t

def inSelectInTable (c : Construction) (t : Token) : Verdict :=
  let isPart (name : String) : Bool :=
    ["caption", "table", "tbody", "tfoot", "thead", "tr", "td", "th"].contains name
  match t with
  | .start tag => if isPart tag.name then .again (closeSelect c) else inSelect c t
  | .stop name =>
    if isPart name then
      if c.inScopeOf Construction.boundsTables [name] then .again (closeSelect c) else .done c
    else inSelect c t
  | _ => inSelect c t

def switchTemplate (c : Construction) (mode : Mode) : Verdict :=
  .again { c with templates := mode :: c.templates.drop 1, mode := mode }

def inTemplate (c : Construction) (t : Token) : Verdict :=
  match t with
  | .start tag =>
    if headNames.contains tag.name then inHead c t
    else if ["caption", "colgroup", "tbody", "tfoot", "thead"].contains tag.name then
      switchTemplate c .inTable
    else if tag.name = "col" then switchTemplate c .inColumnGroup
    else if tag.name = "tr" then switchTemplate c .inTableBody
    else if tag.name = "td" ∨ tag.name = "th" then switchTemplate c .inRow
    else switchTemplate c .inBody
  | .stop name => if name = "template" then inHead c t else .done c
  | .finish => finishTemplate c
  | _ => inBody c t

def afterBody (c : Construction) (t : Token) : Verdict :=
  match t with
  | .space _ => inBody c t
  | .comment s => .done (c.insertCommentAt (c.opened.getLast?.getD Draft.root) s)
  | .doctype _ | .finish => .done c
  | .start tag =>
    if tag.name = "html" then .done (mergeOutermost c tag) else .again { c with mode := .inBody }
  | .stop name =>
    if name = "html" then .done { c with mode := .afterAfterBody }
    else .again { c with mode := .inBody }
  | _ => .again { c with mode := .inBody }

def inFrameset (c : Construction) (t : Token) : Verdict :=
  match t with
  | .space s => .done (c.insertText s)
  | .comment s => .done (c.insertComment s)
  | .start tag =>
    if tag.name = "html" then .done (mergeOutermost c tag)
    else if tag.name = "frameset" then .done (c.insert tag)
    else if tag.name = "frame" then .done (c.insertClosed tag)
    else if tag.name = "noframes" then inHead c t
    else .done c
  | .stop name =>
    if name = "frameset" && 1 < c.opened.length then
      let closed := c.pop
      .done
        (if closed.currentIs ["frameset"] then closed else { closed with mode := .afterFrameset })
    else .done c
  | _ => .done c

def afterFrameset (c : Construction) (t : Token) : Verdict :=
  match t with
  | .space s => .done (c.insertText s)
  | .comment s => .done (c.insertComment s)
  | .start tag =>
    if tag.name = "html" then .done (mergeOutermost c tag)
    else if tag.name = "noframes" then inHead c t
    else .done c
  | .stop name =>
    .done (if name = "html" then { c with mode := .afterAfterFrameset } else c)
  | _ => .done c

def afterAfterBody (c : Construction) (t : Token) : Verdict :=
  match t with
  | .comment s => .done (c.insertCommentAt Draft.root s)
  | .space _ => inBody c t
  | .doctype _ | .finish => .done c
  | .start tag =>
    if tag.name = "html" then .done (mergeOutermost c tag) else .again { c with mode := .inBody }
  | _ => .again { c with mode := .inBody }

def afterAfterFrameset (c : Construction) (t : Token) : Verdict :=
  match t with
  | .comment s => .done (c.insertCommentAt Draft.root s)
  | .space _ => inBody c t
  | .start tag =>
    if tag.name = "html" then .done (mergeOutermost c tag)
    else if tag.name = "noframes" then inHead c t
    else .done c
  | _ => .done c

def byMode (c : Construction) (t : Token) : Verdict :=
  match c.mode with
  | .initial => initial c t
  | .beforeHtml => beforeHtml c t
  | .beforeHead => beforeHead c t
  | .inHead => inHead c t
  | .afterHead => afterHead c t
  | .inBody => inBody c t
  | .text => inText c t
  | .inTable => inTable c t
  | .inTableText => inTableText c t
  | .inCaption => inCaption c t
  | .inColumnGroup => inColumnGroup c t
  | .inTableBody => inTableBody c t
  | .inRow => inRow c t
  | .inCell => inCell c t
  | .inSelect => inSelect c t
  | .inSelectInTable => inSelectInTable c t
  | .inTemplate => inTemplate c t
  | .afterBody => afterBody c t
  | .inFrameset => inFrameset c t
  | .afterFrameset => afterFrameset c t
  | .afterAfterBody => afterAfterBody c t
  | .afterAfterFrameset => afterAfterFrameset c t

/-! ## Foreign elements -/

def leaveForeign (c : Construction) : Construction :=
  { c with
    opened := c.opened.dropWhile fun n =>
      !c.holds (fun e => e.vocabulary == .html || isTextPoint e || isHypertextPoint e) n }

/-- A closing tag inside of foreign elements, sought among the given open ones. -/
def closeForeign (c : Construction) (name : String) : List Nat → Verdict
  | [] => .done c
  | n :: rest =>
    match c.draft.element? n with
    | none => .done c
    | some e =>
      if e.vocabulary = .html then byMode c (.stop name)
      else if Text.asciiLower e.name = name then .done { c with opened := rest }
      else closeForeign c name rest

def byForeign (c : Construction) : Token → Verdict
  | .null => .done (c.insertText (String.singleton replacement))
  | .space s => .done (c.insertText s)
  | .text s => .done { c.insertText s with framesAllowed := false }
  | .comment s => .done (c.insertComment s)
  | .doctype _ => .done c
  | .start tag =>
    if leavesForeign tag then byMode (leaveForeign c) (.start tag)
    else
      let vocabulary :=
        ((c.opened.head?.bind c.draft.element?).map Element.vocabulary).getD .html
      .done (insertForeign c vocabulary tag)
  | .stop name =>
    if name = "br" ∨ name = "p" then byMode (leaveForeign c) (.stop name)
    else closeForeign c name c.opened
  | .finish => byMode c .finish

def isForeign (c : Construction) (t : Token) : Bool :=
  match c.opened.head?.bind c.draft.element? with
  | none => false
  | some e =>
    let isText : Bool :=
      match t with
      | .space _ | .text _ | .null => true
      | _ => false
    let goesOn : Bool :=
      match t with
      | .start tag =>
        (isTextPoint e && tag.name != "mglyph" && tag.name != "malignmark") ||
          (e.vocabulary == .math && e.name == "annotation-xml" && tag.name == "svg") ||
          isHypertextPoint e
      | .finish => true
      | _ => isText && (isTextPoint e || isHypertextPoint e)
    e.vocabulary != .html && !goesOn

end Rules

namespace Construction

/-- Settle a piece, looking at it at most `fuel` times. -/
def takeWith : (fuel : Nat) → Construction → Token → Construction
  | 0, c, _ => c
  | fuel + 1, c, t =>
    match if Rules.isForeign c t then Rules.byForeign c t else Rules.byMode c t with
    | .done d => d
    | .again d => takeWith fuel d t

def withoutLineFeed : Token → Option Token
  | .space s =>
    match s.toList with
    | '\n' :: [] => none
    | '\n' :: rest => some (.space (String.ofList rest))
    | _ => some (.space s)
  | t => some t

/--
Settle a piece. Looking again either changes the part of the document or closes an element, so the
number of open elements bounds how often that happens.
-/
def take (c : Construction) (t : Token) : Construction :=
  let piece := if c.skipsLineFeed then withoutLineFeed t else some t
  let ready := { c with skipsLineFeed := false }
  match piece with
  | some t => takeWith (4 * (c.opened.length + c.templates.length) + 32) ready t
  | none => ready

/-- Whether marked sections are text at the place that has been reached. -/
def inForeign (c : Construction) : Bool :=
  (c.opened.head?.bind c.draft.element?).any fun e => e.vocabulary != .html

/-- Put the rest of a document together; `fuel` bounds its length. -/
def readWith : (fuel : Nat) → Construction → List Char → Construction
  | 0, c, _ => c.take .finish
  | _ + 1, c, [] => c.take .finish
  | fuel + 1, c, cs =>
    let (tokens, rest) := tokensAt c.model c.inForeign cs
    readWith fuel (tokens.foldl take c) rest

end Construction

def Node.read (s : String) : Node :=
  let cs := prepared s
  (Construction.readWith (cs.length + 1) .start cs).draft.toTree

end Html
end Gleaner
