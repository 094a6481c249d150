/-!
# Cutting text

Searching, splitting and measuring text, on lists of characters.

* `dropPrefix?` removes a given beginning, `dropSuffix?` a given end;
* `cutAt?` splits at the first occurrence of a separator, `cutAtLast?` at the last one;
* `pieces` splits at every occurrence;
* `linesOf` splits into lines;
* `byteLength` measures text in UTF-8 bytes, the unit of every reported offset.
-/

namespace Gleaner
namespace Text

/-- What follows `front` in `cs`, when `cs` begins with it. -/
def dropPrefix? : (front cs : List Char) → Option (List Char)
  | [], cs => some cs
  | _ :: _, [] => none
  | p :: ps, c :: cs => if p = c then dropPrefix? ps cs else none

/-- What precedes `back` in `cs`, when `cs` ends with it. -/
def dropSuffix? (back cs : List Char) : Option (List Char) :=
  (dropPrefix? back.reverse cs.reverse).map List.reverse

/-- The text before and after the first occurrence of `sep`. -/
def cutAt? (sep : List Char) : List Char → Option (List Char × List Char)
  | [] => if sep.isEmpty then some ([], []) else none
  | c :: cs =>
    match dropPrefix? sep (c :: cs) with
    | some after => some ([], after)
    | none => (cutAt? sep cs).map fun (before, after) => (c :: before, after)

/-- The text before and after the last occurrence of `sep`. -/
def cutAtLast? (sep cs : List Char) : Option (List Char × List Char) :=
  (cutAt? sep.reverse cs.reverse).map fun (after, before) => (before.reverse, after.reverse)

/-- Whether `part` occurs somewhere in `cs`. -/
def occursIn (part cs : List Char) : Bool :=
  (cutAt? part cs).isSome

/-- Whether the string `part` occurs somewhere in `s`. -/
def contains (s part : String) : Bool :=
  occursIn part.toList s.toList

/--
The parts of `cs` between the occurrences of `sep`, found from left to right; `held` is the part
being collected, in reverse, and `skip` the number of characters of a found separator still to pass.
-/
def piecesFrom (sep : List Char) : (held : List Char) → (skip : Nat) → List Char → List (List Char)
  | held, _, [] => [held.reverse]
  | held, skip + 1, _ :: cs => piecesFrom sep held skip cs
  | held, 0, c :: cs =>
    if (dropPrefix? sep (c :: cs)).isSome then held.reverse :: piecesFrom sep [] (sep.length - 1) cs
    else piecesFrom sep (c :: held) 0 cs

/--
The parts of `cs` between the occurrences of `sep`. An empty separator stands before, between and
after all characters.
-/
def pieces (sep cs : List Char) : List (List Char) :=
  if sep.isEmpty then [] :: cs.map (fun c => [c]) ++ [[]] else piecesFrom sep [] 0 cs

-- the zero of a sum is the numeral, whatever algebra is in scope
attribute [local instance (1100)] Zero.ofOfNat0

def byteLength (cs : List Char) : Nat :=
  (cs.map Char.utf8Size).sum

/-- A line without the carriage return that ends it. -/
def withoutReturn (line : List Char) : List Char :=
  (dropSuffix? ['\r'] line).getD line

/--
The lines of a text. A line ends in a line feed, with or without a carriage return before it; the
last line may lack it, and a carriage return there belongs to the line.
-/
def linesOf (cs : List Char) : List (List Char) :=
  let parts := pieces ['\n'] cs
  let closed := parts.dropLast.map withoutReturn
  match parts.getLast? with
  | some [] | none => closed
  | some last => closed ++ [last]

/-- The texts one after another with `sep` between neighbours. -/
def joinWith (sep : String) (parts : List String) : String :=
  String.intercalate sep parts

def quoted (s : String) : String :=
  "\"" ++ s ++ "\""

end Text
end Gleaner
