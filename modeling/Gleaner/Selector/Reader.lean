import Gleaner.Html.Reference
import Gleaner.Selector.Syntax
import Gleaner.Text.Cut
/-!
# Reading selectors

* `readIdentifier?`, `readString?` read the words of the selector language, with their escapes;
* `readCompound?` reads conditions on one element, `readComplex?` a chain of them, and `readList?` a
  list between commas;
* `Selector.read?` reads a whole text.

A text that ends inside of brackets or quotes is read as if they were closed.
-/

namespace Gleaner
namespace Selector

def isSpace (c : Char) : Bool :=
  c == ' ' || c == '\t' || c == '\n' || c == '\r' || c == '\x0c'

def afterComment? : List Char → Option (List Char)
  | '/' :: '*' :: rest => some (((Text.cutAt? ['*', '/'] rest).map (·.2)).getD [])
  | _ => none

/-- What follows the comments at the front, at most `fuel` of them. -/
def skipComments : (fuel : Nat) → List Char → List Char
  | 0, cs => cs
  | fuel + 1, cs =>
    match afterComment? cs with
    | some rest => skipComments fuel rest
    | none => cs

/-- What follows white space and comments, and whether there was white space. -/
def skipSpaceWith : (fuel : Nat) → (seen : Bool) → List Char → Bool × List Char
  | 0, seen, cs => (seen, cs)
  | fuel + 1, seen, cs =>
    match cs with
    | c :: rest =>
      if isSpace c then skipSpaceWith fuel true rest
      else
        match afterComment? cs with
        | some after => skipSpaceWith fuel seen after
        | none => (seen, cs)
    | [] => (seen, [])

def skipSpace (cs : List Char) : List Char :=
  (skipSpaceWith cs.length false cs).2

/-! ## Words -/

def startsWord (c : Char) : Bool :=
  c.isAlpha || c == '_' || 0x80 ≤ c.toNat

def isWordChar (c : Char) : Bool :=
  startsWord c || c.isDigit || c == '-'

def isEscape : List Char → Bool
  | '\n' :: _ | '\r' :: _ | '\x0c' :: _ => false
  | _ => true

/-- What follows one character of white space, or two that are one line end. -/
def skipOneSpace : List Char → List Char
  | '\r' :: '\n' :: rest => rest
  | c :: rest => if isSpace c then rest else c :: rest
  | [] => []

/-- The character of an escape after its backslash, and what follows it. -/
def readEscape : List Char → Char × List Char
  | [] => (Html.replacement, [])
  | c :: rest =>
    if Text.isHexDigit c then
      let digits := ((c :: rest).take 6).takeWhile Text.isHexDigit
      let n := (Text.numeral? 16 digits).getD 0
      let value := if n = 0 then Html.replacement else (Text.charOf? n).getD Html.replacement
      (value, skipOneSpace ((c :: rest).drop digits.length))
    else (c, rest)

/-- The characters of a word at the front, at most `fuel` of them, and what follows. -/
def readWord : (fuel : Nat) → List Char → List Char × List Char
  | 0, cs => ([], cs)
  | fuel + 1, cs =>
    match cs with
    | '\\' :: rest =>
      if isEscape rest then
        let (c, after) := readEscape rest
        let (more, last) := readWord fuel after
        (c :: more, last)
      else ([], cs)
    | c :: rest =>
      if isWordChar c then
        let (more, last) := readWord fuel rest
        (c :: more, last)
      else ([], cs)
    | [] => ([], [])

/-- Whether an identifier begins here: a word that does not begin like a number. -/
def startsIdentifier : List Char → Bool
  | '-' :: '-' :: _ => true
  | '-' :: '\\' :: rest => isEscape rest
  | '-' :: c :: _ => startsWord c
  | '\\' :: rest => isEscape rest
  | c :: _ => startsWord c
  | [] => false

def readIdentifier? (cs : List Char) : Option (String × List Char) :=
  if startsIdentifier cs then
    let (word, rest) := readWord cs.length cs
    some (String.ofList word, rest)
  else none

/-- The rest of a string in quotes, at most `fuel` characters, and what follows it. -/
def readQuoted? (quote : Char) : (fuel : Nat) → List Char → Option (List Char × List Char)
  | 0, _ => some ([], [])
  | fuel + 1, cs =>
    match cs with
    | [] => some ([], [])
    | '\\' :: '\r' :: '\n' :: rest => readQuoted? quote fuel rest
    | '\\' :: rest =>
      match rest with
      | [] => some ([], [])
      | _ =>
        if isEscape rest then do
          let (c, after) := readEscape rest
          let (more, last) ← readQuoted? quote fuel after
          some (c :: more, last)
        else readQuoted? quote fuel (rest.drop 1)
    | c :: rest =>
      if c = quote then some ([], rest)
      else if c = '\n' ∨ c = '\r' ∨ c = '\x0c' then none
      else do
        let (more, last) ← readQuoted? quote fuel rest
        some (c :: more, last)

/-- The identifier or string in quotes at the front, and what follows it. -/
def readValue? (cs : List Char) : Option (String × List Char) :=
  match cs with
  | c :: rest =>
    if c = '"' ∨ c = '\'' then
      (readQuoted? c (rest.length + 1) rest).map fun (value, after) => (String.ofList value, after)
    else readIdentifier? cs
  | [] => none

/-! ## Brackets -/

def closing? : Char → Option Char
  | '(' => some ')'
  | '[' => some ']'
  | '\x7b' => some '\x7d'
  | _ => none

/-- The number of characters of a string in quotes after the opening quote. -/
def quotedLength (quote : Char) : (escaped : Bool) → List Char → Nat
  | _, [] => 0
  | true, _ :: rest => 1 + quotedLength quote false rest
  | false, c :: rest =>
    if c = quote then 1
    else if c = '\\' then 1 + quotedLength quote true rest
    else 1 + quotedLength quote false rest

/--
The number of characters before the first one that `stops` and stands outside of quotes, comments
and brackets; `open_` holds the brackets that are to be closed, and `skip` counts characters that
belong to a string or an escape.
-/
def extent (stops : Char → Bool) : (open_ : List Char) → (skip : Nat) → List Char → Nat
  | _, _, [] => 0
  | open_, skip + 1, _ :: rest => 1 + extent stops open_ skip rest
  | open_, 0, c :: rest =>
    if open_.isEmpty && stops c then 0
    else if open_.head? = some c then 1 + extent stops (open_.drop 1) 0 rest
    else if c = '"' ∨ c = '\'' then 1 + extent stops open_ (quotedLength c false rest) rest
    else if c = '\\' then 1 + extent stops open_ 1 rest
    else
      match afterComment? (c :: rest) with
      | some after => 1 + extent stops open_ (rest.length - after.length) rest
      | none =>
        match closing? c with
        | some b => 1 + extent stops (b :: open_) 0 rest
        | none => 1 + extent stops open_ 0 rest

/-- What stands before the closing bracket, and what follows the bracket. -/
def readBlock (close : Char) (cs : List Char) : List Char × List Char :=
  let n := extent (· == close) [] 0 cs
  (cs.take n, cs.drop (n + 1))

/-- The parts of a text between commas outside of brackets, at most `fuel` of them. -/
def partsAtCommas : (fuel : Nat) → List Char → List (List Char)
  | 0, cs => [cs]
  | fuel + 1, cs =>
    let n := extent (· == ',') [] 0 cs
    match cs.drop n with
    | [] => [cs]
    | _ :: rest => cs.take n :: partsAtCommas fuel rest

/-! ## Places -/

def readDigits? (cs : List Char) : Option (Nat × List Char) :=
  let digits := cs.takeWhile Char.isDigit
  if digits.isEmpty then none
  else
    some (digits.foldl (fun n c => 10 * n + (c.toNat - 48)) 0, cs.dropWhile Char.isDigit)

def readSign : List Char → Option Int × List Char
  | '+' :: rest => (some 1, rest)
  | '-' :: rest => (some (-1), rest)
  | cs => (none, cs)

/-- The offset after the `n` of a place: nothing, or a sign and digits with space around it. -/
def readOffset? (cs : List Char) : Option Int :=
  match cs.dropWhile isSpace with
  | [] => some 0
  | signed =>
    match readSign signed with
    | (some sign, rest) =>
      match readDigits? (rest.dropWhile isSpace) with
      | some (n, last) => if (last.dropWhile isSpace).isEmpty then some (sign * n) else none
      | none => none
    | (none, _) => none

/-- The step and the offset of a place such as `odd`, `3` or `2n+1`. -/
def readPlaces? (cs : List Char) : Option (Int × Int) :=
  let text := (skipSpace cs).map Text.asciiLowerChar
  let bare := (text.reverse.dropWhile isSpace).reverse
  if bare = "odd".toList then some (2, 1)
  else if bare = "even".toList then some (2, 0)
  else
    let (sign, rest) := readSign text
    let factor := sign.getD 1
    match readDigits? rest with
    | some (k, 'n' :: after) => (readOffset? after).map (factor * k, ·)
    | some (k, after) => if (after.dropWhile isSpace).isEmpty then some (0, factor * k) else none
    | none =>
      match rest with
      | 'n' :: after => (readOffset? after).map (factor, ·)
      | _ => none

/-! ## Conditions -/

def readComparison? : List Char → Option (Comparison × List Char)
  | '=' :: rest => some (.equal, rest)
  | '~' :: '=' :: rest => some (.word, rest)
  | '|' :: '=' :: rest => some (.dash, rest)
  | '^' :: '=' :: rest => some (.beginning, rest)
  | '$' :: '=' :: rest => some (.ending, rest)
  | '*' :: '=' :: rest => some (.part, rest)
  | _ => none

/-- The rule for the case of letters that ends a test, when nothing else does. -/
def readCaseRule? (cs : List Char) : Option CaseRule :=
  match skipSpace cs with
  | [] => some .byName
  | word =>
    match readIdentifier? word with
    | some (name, rest) =>
      if !(skipSpace rest).isEmpty then none
      else if Text.asciiLower name = "i" then some .folded
      else if Text.asciiLower name = "s" then some .exact
      else none
    | none => none

/-- The name of an attribute with the mark for any family before it, and what follows it. -/
def readAttributeName? (cs : List Char) : Option (Bool × String × List Char) :=
  match cs with
  | '*' :: '|' :: rest => (readIdentifier? rest).map fun (name, after) => (true, name, after)
  | '|' :: rest => (readIdentifier? rest).map fun (name, after) => (false, name, after)
  | _ => do
    let (name, after) ← readIdentifier? cs
    match after with
    | '|' :: '=' :: _ => some (false, name, after)
    | '|' :: _ => none
    | _ => some (false, name, after)

def readTest? (inner : List Char) : Option AttributeTest := do
  let (anyFamily, name, after) ← readAttributeName? (skipSpace inner)
  match skipSpace after with
  | [] => some ⟨anyFamily, name, none⟩
  | rest => do
    let (comparison, more) ← readComparison? rest
    let (value, last) ← readValue? (skipSpace more)
    let rule ← readCaseRule? last
    some ⟨anyFamily, name, some (comparison, value, rule)⟩

def placeWord? : String → Option Selector
  | "first-child" => some (.position ⟨false, false, 0, 1⟩)
  | "last-child" => some (.position ⟨false, true, 0, 1⟩)
  | "only-child" => some (.both (.position ⟨false, false, 0, 1⟩) (.position ⟨false, true, 0, 1⟩))
  | "first-of-type" => some (.position ⟨true, false, 0, 1⟩)
  | "last-of-type" => some (.position ⟨true, true, 0, 1⟩)
  | "only-of-type" => some (.both (.position ⟨true, false, 0, 1⟩) (.position ⟨true, true, 0, 1⟩))
  | "root" => some .outermost
  | "empty" => some .hollow
  | "scope" => some .scope
  | _ => none

/-- What is counted by a word that takes places as its argument: siblings, and from which end. -/
def countingWord? : String → Option (Bool × Bool)
  | "nth-child" => some (false, false)
  | "nth-last-child" => some (false, true)
  | "nth-of-type" => some (true, false)
  | "nth-last-of-type" => some (true, true)
  | _ => none

/-- The condition on the name of an element at the front, and what follows it. -/
def readType? (cs : List Char) : Option (Option Selector × List Char) :=
  let local? (rest : List Char) (wrap : Selector → Selector) :
      Option (Option Selector × List Char) :=
    match rest with
    | '*' :: after => some (some (wrap .any), after)
    | _ => (readIdentifier? rest).map fun (name, after) => (some (wrap (.named name)), after)
  match cs with
  | '*' :: '|' :: '=' :: _ => none
  | '*' :: '|' :: rest => local? rest id
  | '*' :: rest => some (some .any, rest)
  | '|' :: rest => local? rest fun _ => .never
  | _ =>
    match readIdentifier? cs with
    | some (_, '|' :: _) => none
    | some (name, rest) => some (some (.named name), rest)
    | none => some (none, cs)

def allOf : List Selector → Selector
  | [] => .any
  | s :: rest => rest.foldl .both s

mutual

/-- One condition but that on the name at the front, if there is one, and what follows it. -/
def readSimple? (inHas : Bool) :
    (fuel : Nat) → List Char → Option (Option Selector × List Char)
  | 0, _ => none
  | fuel + 1, cs =>
    match skipComments cs.length cs with
    | '#' :: rest => do
      let (name, after) ← readIdentifier? rest
      some (some (.identifier name), after)
    | '.' :: rest => do
      let (name, after) ← readIdentifier? rest
      some (some (.className name), after)
    | '[' :: rest => do
      let (inner, after) := readBlock ']' rest
      let test ← readTest? inner
      some (some (.attributed test), after)
    | ':' :: rest => do
      let (word, after) ← readIdentifier? rest
      let name := Text.asciiLower word
      match after with
      | '(' :: inside =>
        let (inner, last) := readBlock ')' inside
        let s ← readFunction? inHas fuel name inner
        some (some s, last)
      | _ => do
        let s ← placeWord? name
        some (some s, after)
    | other => some (none, other)

def readFunction? (inHas : Bool) : (fuel : Nat) → String → List Char → Option Selector
  | 0, _, _ => none
  | fuel + 1, name, inner =>
    match countingWord? name with
    | some (ofType, fromEnd) =>
      (readPlaces? inner).map fun (step, offset) => .position ⟨ofType, fromEnd, step, offset⟩
    | none =>
      let parts := partsAtCommas inner.length inner
      if name = "not" then
        (parts.mapM fun part => readComplex? inHas fuel false part).map fun choices =>
          .not (.anyOf choices)
      else if name = "is" ∨ name = "where" then
        some (.anyOf (parts.filterMap fun part => readComplex? inHas fuel false part))
      else if name = "has" ∧ !inHas then
        (parts.mapM fun part => readComplex? true fuel true part).map fun choices =>
          .anyOf (choices.map .has)
      else none

/-- The conditions on one element at the front, with what follows them. -/
def readConditions? (inHas : Bool) : (fuel : Nat) → List Char → Option (List Selector × List Char)
  | 0, _ => none
  | fuel + 1, cs => do
    let (found, rest) ← readSimple? inHas fuel cs
    match found with
    | none => some ([], rest)
    | some s => do
      let (more, last) ← readConditions? inHas fuel rest
      some (s :: more, last)

/-- The conditions on one element, at least one, and what follows them. -/
def readCompound? (inHas : Bool) : (fuel : Nat) → List Char → Option (Selector × List Char)
  | 0, _ => none
  | fuel + 1, cs => do
    let (type, rest) ← readType? (skipSpace cs)
    let (conditions, last) ← readConditions? inHas fuel rest
    let whole := type.toList ++ conditions
    if whole.isEmpty then none else some (allOf whole, last)

/-- The combinators and conditions after those read so far, up to the end of the text. -/
def readChain? (inHas : Bool) : (fuel : Nat) → Selector → List Char → Option Selector
  | 0, _, _ => none
  | fuel + 1, so, cs =>
    let (hasSpace, rest) := skipSpaceWith cs.length false cs
    let go (c : Combinator) (more : List Char) : Option Selector := do
      let (next, last) ← readCompound? inHas fuel more
      readChain? inHas fuel (.both (.related c so) next) last
    match rest with
    | [] => some so
    | '>' :: more => go .child more
    | '+' :: more => go .next more
    | '~' :: more => go .later more
    | _ => if hasSpace then go .descendant rest else none

/--
A chain of conditions that fills a text. A relative chain begins at the element for which `has` is
decided, with a combinator or as if it stood inside of the element.
-/
def readComplex? (inHas : Bool) : (fuel : Nat) → (relative : Bool) → List Char → Option Selector
  | 0, _, _ => none
  | fuel + 1, true, cs =>
    let go (c : Combinator) (more : List Char) : Option Selector := do
      let (first, last) ← readCompound? inHas fuel more
      readChain? inHas fuel (.both (.related c .anchor) first) last
    match skipSpace cs with
    | '>' :: more => go .child more
    | '+' :: more => go .next more
    | '~' :: more => go .later more
    | rest => go .descendant rest
  | fuel + 1, false, cs => do
    let (first, last) ← readCompound? inHas fuel cs
    readChain? inHas fuel first last

end

/-- The selector that a text writes: one of several chains between commas. -/
def read? (s : String) : Option Selector :=
  let cs := s.toList
  let fuel := 4 * (cs.length + 2)
  ((partsAtCommas cs.length cs).mapM fun part => readComplex? false fuel false part).map .anyOf

end Selector
end Gleaner
