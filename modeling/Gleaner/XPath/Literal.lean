import Gleaner.Text.Cut
/-!
# String literals of paths

A literal of the path language stands between two equal quotes and cannot hold that quote.

* `XPath.literalText` writes a text as a string expression: one literal if some quote does not occur
  in it, otherwise a concatenation of literals cut at the apostrophes.
-/

namespace Gleaner
namespace XPath

/-- The literals of the chunks between apostrophes, and of the apostrophes between them. -/
def literalParts : List (List Char) → List (List Char)
  | [] => []
  | [chunk] => chunkLiteral chunk
  | chunk :: rest => chunkLiteral chunk ++ ['"', '\'', '"'] :: literalParts rest
where
  -- A chunk without apostrophes between two of them; an empty one needs no literal.
  chunkLiteral (chunk : List Char) : List (List Char) :=
    if chunk.isEmpty then [] else ['\'' :: chunk ++ ['\'']]

def literalChars (cs : List Char) : List Char :=
  if !cs.contains '"' then '"' :: cs ++ ['"']
  else if !cs.contains '\'' then '\'' :: cs ++ ['\'']
  else
    "concat(".toList ++ [',', ' '].intercalate (literalParts (Text.pieces ['\''] cs)) ++ [')']

def literalText (s : String) : String :=
  String.ofList (literalChars s.toList)

end XPath
end Gleaner
