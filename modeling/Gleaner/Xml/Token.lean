import Gleaner.Text.Cut
import Gleaner.Xml.Name
/-!
# Pieces of markup

A document is read in two steps: first it is cut into pieces, then the pieces are put together as a
tree. This module holds the pieces.

* `Token` is a piece: a tag, a run of text, a comment, an instruction, a document type;
* `readReference?`, `readAttributes?` and the other readers take one construct from the front;
* `Token.read?` reads the piece at the front, and `tokens?` all of them.

Text, each reference in it and each marked section are pieces of their own.
-/

namespace Gleaner
namespace Xml

inductive Token where
  -- The tag that opens an element, with its attributes; `closed` when it also closes it.
  | start (name : Spelled) (attributes : List (Spelled × String)) (closed : Bool)
  | stop (name : Spelled)
  | text (s : String)
  -- The text of a reference or of a marked section.
  | exact (s : String)
  | comment (s : String)
  | instruction (target : String) (content : String)
  | doctype
  deriving DecidableEq, Repr

def namedReference? : String → Option Char
  | "amp" => some '&'
  | "lt" => some '<'
  | "gt" => some '>'
  | "apos" => some '\''
  | "quot" => some '"'
  | _ => none

def afterSemicolon? {α : Type} (value : α) : List Char → Option (α × List Char)
  | ';' :: rest => some (value, rest)
  | _ => none

/-- The character of the reference after an ampersand, and what follows the reference. -/
def readReference? : List Char → Option (Char × List Char)
  | '#' :: 'x' :: rest =>
    let digits := rest.takeWhile Text.isHexDigit
    if digits.isEmpty then none
    else do
      let c ← Text.charOf? (← Text.numeral? 16 digits)
      afterSemicolon? c (rest.dropWhile Text.isHexDigit)
  | '#' :: rest =>
    let digits := rest.takeWhile Char.isDigit
    if digits.isEmpty then none
    else do
      let c ← Text.charOf? (← Text.numeral? 10 digits)
      afterSemicolon? c (rest.dropWhile Char.isDigit)
  | rest => do
    let (name, after) ← readName? rest
    let c ← namedReference? name
    afterSemicolon? c after

/--
The value of an attribute up to the closing `quote`, and what follows it. References are replaced;
an opening angle bracket may not stand in a value.
-/
def readValue? (quote : Char) : (fuel : Nat) → List Char → Option (List Char × List Char)
  | 0, _ => none
  | _, [] => none
  | fuel + 1, c :: rest =>
    if c = quote then some ([], rest)
    else if c = '<' then none
    else if c = '&' then do
      let (value, after) ← readReference? rest
      let (more, last) ← readValue? quote fuel after
      some (value :: more, last)
    else do
      let (more, last) ← readValue? quote fuel rest
      some (c :: more, last)

def readQuoted? : List Char → Option (String × List Char)
  | c :: rest =>
    if c = '"' ∨ c = '\'' then
      (readValue? c (rest.length + 1) rest).map fun (value, after) => (String.ofList value, after)
    else none
  | [] => none

def afterEquals? (cs : List Char) : Option (List Char) :=
  match skipSpace cs with
  | '=' :: rest => some (skipSpace rest)
  | _ => none

/--
The attributes of a tag and what follows them. White space stands before each of them.
-/
def readAttributes? : (fuel : Nat) → List Char → Option (List (Spelled × String) × List Char)
  | 0, _ => none
  | fuel + 1, cs =>
    if (cs.head?.map isSpace).getD false then
      let inside := skipSpace cs
      match Spelled.read? inside with
      | none => some ([], inside)
      | some (name, after) => do
        let quoted ← afterEquals? after
        let (value, rest) ← readQuoted? quoted
        let (more, last) ← readAttributes? fuel rest
        some ((name, value) :: more, last)
    else some ([], cs)

def readStart? (cs : List Char) : Option (Token × List Char) := do
  let (name, rest) ← Spelled.read? cs
  let (attributes, after) ← readAttributes? (rest.length + 1) rest
  match after with
  | '>' :: last => some (.start name attributes false, last)
  | '/' :: '>' :: last => some (.start name attributes true, last)
  | _ => none

def readStop? (cs : List Char) : Option (Token × List Char) := do
  let (name, rest) ← Spelled.read? cs
  match skipSpace rest with
  | '>' :: last => some (.stop name, last)
  | _ => none

/-- The comment after its opening; two hyphens may stand in it only to close it. -/
def readComment? (cs : List Char) : Option (Token × List Char) := do
  let (content, rest) ← Text.cutAt? ['-', '-'] cs
  match rest with
  | '>' :: last => some (.comment (String.ofList content), last)
  | _ => none

def readSection? (cs : List Char) : Option (Token × List Char) := do
  let (content, last) ← Text.cutAt? [']', ']', '>'] cs
  some (.exact (String.ofList content), last)

/-- The instruction after its opening; its target may not be the reserved name. -/
def readInstruction? (cs : List Char) : Option (Token × List Char) := do
  let (target, rest) ← readName? cs
  if target.toLower = "xml" then none
  else
    match rest with
    | '?' :: '>' :: last => some (.instruction target "", last)
    | c :: _ =>
      if isSpace c then do
        let (content, last) ← Text.cutAt? ['?', '>'] (skipSpace rest)
        some (.instruction target (String.ofList content), last)
      else none
    | [] => none

def afterLiteral? : List Char → Option (List Char)
  | c :: rest =>
    if c = '"' ∨ c = '\'' then (Text.cutAt? [c] rest).map (·.2) else none
  | [] => none

def afterSpace? : List Char → Option (List Char)
  | c :: rest => if isSpace c then some (skipSpace rest) else none
  | [] => none

/-- What follows an external identifier at the front, or the text itself without one. -/
def afterExternal? (cs : List Char) : Option (List Char) :=
  match Text.dropPrefix? "SYSTEM".toList cs with
  | some rest => afterSpace? rest >>= afterLiteral?
  | none =>
    match Text.dropPrefix? "PUBLIC".toList cs with
    | some rest => afterSpace? rest >>= afterLiteral? >>= afterSpace? >>= afterLiteral?
    | none => some cs

/-- The document type declaration after its opening; what its brackets hold is passed over. -/
def readDoctype? (cs : List Char) : Option (Token × List Char) := do
  let named ← afterSpace? cs
  let (_, rest) ← readName? named
  let identified ← afterExternal? (skipSpace rest)
  let declared ←
    match skipSpace identified with
    | '[' :: inside => (Text.cutAt? [']'] inside).map (·.2)
    | other => some other
  match skipSpace declared with
  | '>' :: last => some (.doctype, last)
  | _ => none

def textLength : List Char → Nat
  | [] => 0
  | ']' :: ']' :: '>' :: _ => 0
  | c :: rest => if c = '<' ∨ c = '&' then 0 else textLength rest + 1

def openings : List (List Char × (List Char → Option (Token × List Char))) :=
  [("<!--".toList, readComment?), ("<![CDATA[".toList, readSection?),
    ("<!DOCTYPE".toList, readDoctype?), ("<?".toList, readInstruction?),
    ("</".toList, readStop?), ("<".toList, readStart?)]

def readOpened? (cs : List Char) :
    List (List Char × (List Char → Option (Token × List Char))) → Option (Token × List Char)
  | [] => none
  | (opening, read) :: more =>
    match Text.dropPrefix? opening cs with
    | some rest => read rest
    | none => readOpened? cs more

def Token.read? : List Char → Option (Token × List Char)
  | '&' :: rest =>
    (readReference? rest).map fun (c, last) => (.exact (String.singleton c), last)
  | '<' :: rest => readOpened? ('<' :: rest) openings
  | cs =>
    let n := textLength cs
    if n = 0 then none else some (.text (String.ofList (cs.take n)), cs.drop n)

/-- All pieces of a text; the reading stops after `fuel` pieces. -/
def tokensWith? : (fuel : Nat) → List Char → Option (List Token)
  | _, [] => some []
  | 0, _ :: _ => none
  | fuel + 1, c :: cs => do
    let (token, rest) ← Token.read? (c :: cs)
    let more ← tokensWith? fuel rest
    some (token :: more)

/-- The version, encoding and standalone parts of a declaration, each with its own rule. -/
def declarationParts : List (String × Bool × (List Char → Bool)) :=
  [("version", true, isVersion), ("encoding", false, isEncoding),
    ("standalone", false, fun v => v = "yes".toList || v = "no".toList)]
where
  -- One, a point and digits.
  isVersion : List Char → Bool
    | '1' :: '.' :: digits => !digits.isEmpty && digits.all Char.isDigit
    | _ => false
  -- A letter, then letters, digits and three marks.
  isEncoding : List Char → Bool
    | c :: rest => c.isAlpha && rest.all fun d => d.isAlphanum || d == '.' || d == '_' || d == '-'
    | [] => false

def afterParts? :
    List (String × Bool × (List Char → Bool)) → List Char → Option (List Char)
  | [], cs => some cs
  | (name, needed, fits) :: more, cs =>
    match (afterSpace? cs).bind (Text.dropPrefix? name.toList) with
    | none => if needed then none else afterParts? more cs
    | some rest => do
      let quoted ← afterEquals? rest
      let (value, after) ← readQuoted? quoted
      if fits value.toList then afterParts? more after else none

/-- What follows the declaration at the front of a document, where there is one. -/
def afterDeclaration? (cs : List Char) : Option (List Char) :=
  match Text.dropPrefix? "<?xml".toList cs with
  | none => some cs
  | some rest =>
    if (rest.head?.map isSpace).getD false then do
      let after ← afterParts? declarationParts rest
      match skipSpace after with
      | '?' :: '>' :: last => some last
      | _ => none
    else some cs

def tokens? (s : String) : Option (List Token) := do
  let cs ← afterDeclaration? s.toList
  tokensWith? cs.length cs

end Xml
end Gleaner
