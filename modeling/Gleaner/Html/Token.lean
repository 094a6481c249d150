import Gleaner.Html.Reference
import Gleaner.Text.Cut
/-!
# Pieces of hypertext

A document of hypertext is cut into pieces before it becomes a tree. Every text can be cut: what is
not well formed still has a meaning.

* `Token` is a piece;
* `readTag?`, `readDeclaration` and the other readers take one construct from the front;
* `ContentModel` says what a tag's contents may hold, and `tokensAt` reads the pieces at the front.
-/

namespace Gleaner
namespace Html

/-- A tag with its name and attributes, in lower case; the first of equal attributes counts. -/
structure Tag where
  name : String
  -- The attributes in the order in which they are written.
  attributes : List (String × String)
  -- Whether the tag ends in a slash.
  closed : Bool
  deriving DecidableEq, Repr

structure Doctype where
  -- The name, in lower case.
  name : Option String
  publicId : Option String
  systemId : Option String
  broken : Bool
  deriving DecidableEq, Repr

inductive Token where
  | doctype (d : Doctype)
  | start (tag : Tag)
  | stop (name : String)
  | comment (s : String)
  | space (s : String)
  | text (s : String)
  -- The character zero.
  | null
  -- The end of the document.
  | finish
  deriving DecidableEq, Repr

def isSpace (c : Char) : Bool :=
  c == ' ' || c == '\t' || c == '\n' || c == '\r' || c == '\x0c'

def skipSpace (cs : List Char) : List Char :=
  cs.dropWhile isSpace

/-- Text with the replacement character in place of the character zero. -/
def withoutNull (cs : List Char) : List Char :=
  cs.map fun c => if c = '\x00' then replacement else c

/-- The kind of a character: white space, the character zero, or any other. -/
def spaceClass (c : Char) : Nat :=
  if isSpace c then 0 else if c = '\x00' then 1 else 2

def tokenOfRun (run : List Char) : List Token :=
  match run with
  | [] => []
  | c :: _ =>
    match spaceClass c with
    | 0 => [.space (String.ofList run)]
    | 1 => run.map fun _ => .null
    | _ => [.text (String.ofList run)]

def textTokens (cs : List Char) : List Token :=
  (cs.splitBy fun a b => spaceClass a == spaceClass b).flatMap tokenOfRun

/-! ## Tags -/

def endsTagName (c : Char) : Bool :=
  isSpace c || c == '/' || c == '>'

def loweredName (cs : List Char) : String :=
  String.ofList ((withoutNull cs).map Text.asciiLowerChar)

/-- The value of an attribute after the equals sign and white space, and what follows it. -/
def readValue? (cs : List Char) : Option (String × List Char) :=
  let finish (value : List Char) : String :=
    String.ofList (withoutNull (replaceReferences true value.length value))
  match cs with
  | [] => none
  | '"' :: rest => (Text.cutAt? ['"'] rest).map fun (value, after) => (finish value, after)
  | '\'' :: rest => (Text.cutAt? ['\''] rest).map fun (value, after) => (finish value, after)
  | '>' :: _ => some ("", cs)
  | _ =>
    let stops (c : Char) : Bool := isSpace c || c == '>'
    some (finish (cs.takeWhile fun c => !stops c), cs.dropWhile fun c => !stops c)

/-- The length of an attribute's name; an equals sign may only begin it. -/
def attributeNameLength : List Char → Nat
  | [] => 0
  | _ :: rest => 1 + (rest.takeWhile fun c => !(endsTagName c || c == '=')).length

/--
The attributes of a tag up to its closing bracket, whether a slash stands before the bracket, and
what follows the tag; nothing when the text ends inside of the tag.
-/
def readAttributes? : (fuel : Nat) → List Char → Option (List (String × String) × Bool × List Char)
  | 0, _ => none
  | fuel + 1, cs =>
    match skipSpace cs with
    | [] => none
    | '>' :: rest => some ([], false, rest)
    | '/' :: '>' :: rest => some ([], true, rest)
    | '/' :: rest => readAttributes? fuel rest
    | named =>
      let n := attributeNameLength named
      let name := loweredName (named.take n)
      match skipSpace (named.drop n) with
      | '=' :: after => do
        let (value, rest) ← readValue? (skipSpace after)
        let (more, closed, last) ← readAttributes? fuel rest
        some ((name, value) :: more, closed, last)
      | _ => do
        let (more, closed, last) ← readAttributes? fuel (named.drop n)
        some ((name, "") :: more, closed, last)

def firstOfEach : List (String × String) → List (String × String)
  | [] => []
  | (name, value) :: rest => (name, value) :: (firstOfEach rest).filter fun a => a.1 != name

def readTag? (cs : List Char) : Option (Tag × List Char) :=
  let name := cs.takeWhile fun c => !endsTagName c
  let rest := cs.drop name.length
  (readAttributes? (rest.length + 1) rest).map fun (attributes, closed, last) =>
    (⟨loweredName name, firstOfEach attributes, closed⟩, last)

/-! ## Comments and declarations -/

def withoutEnd (back cs : List Char) : List Char :=
  (Text.dropSuffix? back cs).getD cs

/-- The end of a comment at the front: what follows it. -/
def afterCommentEnd? : List Char → Option (List Char)
  | '-' :: '-' :: '>' :: rest => some rest
  | '-' :: '-' :: '!' :: '>' :: rest => some rest
  | _ => none

/-- The text of a comment up to its end, and what follows the comment. -/
def commentBody : List Char → List Char × List Char
  | [] => ([], [])
  | c :: cs =>
    match afterCommentEnd? (c :: cs) with
    | some rest => ([], rest)
    | none =>
      let (body, rest) := commentBody cs
      (c :: body, rest)

def hasCommentEnd : List Char → Bool
  | [] => false
  | c :: cs => (afterCommentEnd? (c :: cs)).isSome || hasCommentEnd cs

def cutEnd (cs : List Char) : List Char :=
  match Text.dropSuffix? ['-', '-', '!'] cs with
  | some body => body
  | none => withoutEnd ['-'] (withoutEnd ['-'] cs)

def readComment : List Char → Token × List Char
  | '>' :: rest => (.comment "", rest)
  | '-' :: '>' :: rest => (.comment "", rest)
  | cs =>
    let (body, rest) := commentBody cs
    let whole := if hasCommentEnd cs then body else cutEnd body
    (.comment (String.ofList (withoutNull whole)), rest)

def readBogusComment (cs : List Char) : Token × List Char :=
  let body := cs.takeWhile (· != '>')
  (.comment (String.ofList (withoutNull body)), (cs.drop body.length).drop 1)

/-- The text in quotes at the front, up to the closing quote or a bracket, and what follows. -/
def readIdentifier? : List Char → Option (String × Bool × List Char)
  | q :: rest =>
    if q = '"' ∨ q = '\'' then
      let body := rest.takeWhile fun c => c != q && c != '>'
      let after := rest.drop body.length
      let text := String.ofList (withoutNull body)
      match after with
      | c :: last => if c = q then some (text, true, last) else some (text, false, after)
      | [] => some (text, false, [])
    else none
  | [] => none

def dropWord? (word : String) (cs : List Char) : Option (List Char) :=
  let n := word.length
  if (cs.take n).map Text.asciiUpperChar = word.toList then some (cs.drop n) else none

/-- The system identifier of a document type at the front, when there is one. -/
def readSystem (d : Doctype) (cs : List Char) : Doctype :=
  match skipSpace cs with
  | '>' :: _ => d
  | inside =>
    match readIdentifier? inside with
    | none => { d with broken := true }
    | some (text, whole, _) => { d with systemId := some text, broken := !whole }

def readIdentifiers (name : Option String) (cs : List Char) : Doctype :=
  let plain : Doctype := ⟨name, none, none, name.isNone⟩
  match skipSpace cs with
  | '>' :: _ => plain
  | inside =>
    match dropWord? "PUBLIC" inside with
    | some rest =>
      match readIdentifier? (skipSpace rest) with
      | none => { plain with broken := true }
      | some (text, whole, after) =>
        let identified := { plain with publicId := some text, broken := !whole }
        if whole then readSystem identified after else identified
    | none =>
      match dropWord? "SYSTEM" inside with
      | some rest =>
        match readIdentifier? (skipSpace rest) with
        | none => { plain with broken := true }
        | some (text, whole, _) => { plain with systemId := some text, broken := !whole }
      | none => { plain with broken := true }

def readDoctype (cs : List Char) : Token × List Char :=
  let inside := skipSpace cs
  let name := inside.takeWhile fun c => !(isSpace c || c == '>')
  let rest := inside.drop name.length
  let shown := if name.isEmpty then none else some (loweredName name)
  let declared := readIdentifiers shown rest
  let last := rest.dropWhile (· != '>')
  (.doctype { declared with broken := declared.broken || last.isEmpty }, last.drop 1)

/--
What begins with an exclamation mark after the opening bracket. A marked section is text inside of
foreign elements, elsewhere a comment.
-/
def readDeclaration (inForeign : Bool) (cs : List Char) : List Token × List Char :=
  match Text.dropPrefix? ['-', '-'] cs with
  | some rest => let (token, last) := readComment rest; ([token], last)
  | none =>
    match dropWord? "DOCTYPE" cs with
    | some rest => let (token, last) := readDoctype rest; ([token], last)
    | none =>
      match if inForeign then Text.dropPrefix? "[CDATA[".toList cs else none with
      | some rest =>
        let (body, last) := (Text.cutAt? [']', ']', '>'] rest).getD (rest, [])
        (textTokens body, last)
      | none => let (token, last) := readBogusComment cs; ([token], last)

/-- The pieces after an opening bracket; nothing when the text ends inside of a tag. -/
def readMarkup (inForeign : Bool) (cs : List Char) : List Token × List Char :=
  match cs with
  | '!' :: rest => readDeclaration inForeign rest
  | '?' :: _ => let (token, last) := readBogusComment cs; ([token], last)
  | '/' :: rest =>
    match rest with
    | [] => (textTokens ['<', '/'], [])
    | '>' :: last => ([], last)
    | c :: _ =>
      if c.isAlpha then
        match readTag? rest with
        | some (tag, last) => ([.stop tag.name], last)
        | none => ([], [])
      else let (token, last) := readBogusComment rest; ([token], last)
  | c :: _ =>
    if c.isAlpha then
      match readTag? cs with
      | some (tag, last) => ([.start tag], last)
      | none => ([], [])
    else (textTokens ['<'], cs)
  | [] => (textTokens ['<'], [])

/-! ## Contents that hold no markup -/

inductive ContentModel where
  -- Tags, comments and references.
  | markup
  -- References, up to the closing tag of the element.
  | references (name : String)
  -- Plain text, up to the closing tag of the element.
  | plain (name : String)
  -- A script, in which comments can hide a closing tag.
  | script
  -- Plain text up to the end of the document.
  | endless
  deriving DecidableEq, Repr

def isClosing (name : String) (cs : List Char) : Bool :=
  match Text.dropPrefix? ['<', '/'] cs with
  | none => false
  | some rest =>
    let n := name.length
    ((rest.take n).map Text.asciiLowerChar == name.toList) &&
      ((rest.drop n).head?.map endsTagName).getD false

def lengthToClosing (name : String) : List Char → Nat
  | [] => 0
  | c :: cs => if isClosing name (c :: cs) then 0 else lengthToClosing name cs + 1

inductive Cover where
  | open
  | comment
  -- Inside of a script within a comment.
  | nested
  deriving DecidableEq, Repr

def isScriptOpening (cs : List Char) : Bool :=
  match cs with
  | '<' :: rest =>
    ((rest.take 6).map Text.asciiLowerChar == "script".toList) &&
      ((rest.drop 6).head?.map endsTagName).getD false
  | _ => false

/--
The length of a script before its closing tag; `dashes` counts the hyphens just read.
-/
def scriptLength : (cover : Cover) → (dashes : Nat) → List Char → Nat
  | _, _, [] => 0
  | .open, _, '<' :: cs =>
    if isClosing "script" ('<' :: cs) then 0
    else
      match cs with
      | '!' :: '-' :: '-' :: rest => 4 + scriptLength .comment 2 rest
      | cs => 1 + scriptLength .open 0 cs
  | .open, _, _ :: cs => 1 + scriptLength .open 0 cs
  | cover, dashes, '-' :: cs => 1 + scriptLength cover (dashes + 1) cs
  | cover, dashes, '>' :: cs =>
    1 + scriptLength (if 2 ≤ dashes then .open else cover) 0 cs
  | .comment, _, '<' :: cs =>
    if isClosing "script" ('<' :: cs) then 0
    else 1 + scriptLength (if isScriptOpening ('<' :: cs) then .nested else .comment) 0 cs
  | .nested, _, '<' :: cs =>
    1 + scriptLength (if isClosing "script" ('<' :: cs) then .comment else .nested) 0 cs
  | cover, _, _ :: cs => 1 + scriptLength cover 0 cs

def readClosing (cs : List Char) : List Token × List Char :=
  match cs with
  | '<' :: rest => readMarkup false rest
  | _ => ([], [])

/-- The text of `length` characters as tokens, then the closing tag after it. -/
def contentThenClosing (convert : List Char → List Char) (length : Nat) (cs : List Char) :
    List Token × List Char :=
  let body := textTokens (withoutNull (convert (cs.take length)))
  let (closing, rest) := readClosing (cs.drop length)
  (body ++ closing, rest)

/-- The pieces at the front of a text that is not empty, and what follows them. -/
def tokensAt (model : ContentModel) (inForeign : Bool) (cs : List Char) : List Token × List Char :=
  match model with
  | .markup =>
    match cs with
    | '<' :: rest => readMarkup inForeign rest
    | _ =>
      let body := cs.takeWhile (· != '<')
      (textTokens (replaceReferences false body.length body), cs.drop body.length)
  | .references name =>
    let convert (body : List Char) := replaceReferences false body.length body
    contentThenClosing convert (lengthToClosing name cs) cs
  | .plain name => contentThenClosing id (lengthToClosing name cs) cs
  | .script => contentThenClosing id (scriptLength .open 0 cs) cs
  | .endless => (textTokens (withoutNull cs), [])

def prepared (s : String) : List Char :=
  let cs :=
    match s.toList with
    | c :: rest => if c = Char.ofNat 0xFEFF then rest else c :: rest
    | [] => []
  withLineFeeds cs
where
  -- Each carriage return, with a line feed after it or without, as a line feed.
  withLineFeeds : List Char → List Char
    | [] => []
    | '\r' :: '\n' :: cs => '\n' :: withLineFeeds cs
    | '\r' :: cs => '\n' :: withLineFeeds cs
    | c :: cs => c :: withLineFeeds cs

end Html
end Gleaner
