import Gleaner.Output.Options
import Gleaner.Record
import Gleaner.Spec.Basic
/-!
# Rendering

The rows are written in the format of the specification, as lines without a final line end.

* `Output.csv` writes delimited fields, quoted where they have to be;
* `Output.xml` writes an element for each row and cell;
* `Output.json` writes one array of objects, `Output.plain` the single column as lines;
* `Output.render` chooses among them.
-/

namespace Gleaner
namespace Output

def lines (ls : List String) : String :=
  Text.joinWith "\n" ls

@[simp]
theorem lines_singleton (l : String) : lines [l] = l := by
  simp [lines, Text.joinWith]

/-- The first of several lines, a line feed, and the others. -/
theorem toList_lines_cons_cons (l m : String) (ls : List String) :
    (lines (l :: m :: ls)).toList = l.toList ++ '\n' :: (lines (m :: ls)).toList := by
  simp [lines, Text.joinWith, String.toList_intercalate]

/-! ## Delimited fields -/

/-- Whether a field has to be quoted: it holds the delimiter, a quote or a line end. -/
def needsQuotes (delimiter : Char) (field : List Char) : Bool :=
  field.any fun c => c == delimiter || c == '"' || c == '\n' || c == '\r'

def doubledQuotes (field : List Char) : List Char :=
  field.flatMap fun c => if c = '"' then ['"', '"'] else [c]

def writtenField (delimiter : Char) (field : String) : String :=
  if needsQuotes delimiter field.toList then
    String.ofList ('"' :: doubledQuotes field.toList ++ ['"'])
  else field

/--
A line of fields. A single empty field is an empty line, no field at all an empty pair of quotes.
-/
def fieldLine (delimiter : Char) (fields : List String) : String :=
  match fields with
  | [] => "\"\""
  | fields => Text.joinWith (String.singleton delimiter) (fields.map (writtenField delimiter))

def csvLines (delimiter : Char) (header : Bool) (rows : List Record) (columns : List String) :
    List String :=
  (if header then [fieldLine delimiter columns] else []) ++
    rows.map fun r => fieldLine delimiter (r.values.map Json.text)

/-- The rows as delimited fields, after a line of column names unless that is switched off. -/
def csv (rows : List Record) (options : Members) (columns : List String) :
    Except Failure String := do
  let delimiter ← delimiter options
  let header ← boolOption options "header" true
  .ok (lines (csvLines delimiter header rows columns))

/-! ## Elements -/

def escapedChar (c : Char) : List Char :=
  match c with
  | '<' => "&lt;".toList
  | '>' => "&gt;".toList
  | '&' => "&amp;".toList
  | '\'' => "&apos;".toList
  | '"' => "&quot;".toList
  | c => [c]

def escapedText (s : String) : String :=
  String.ofList (s.toList.flatMap escapedChar)

def emptyElement (tag : String) : String :=
  "<" ++ tag ++ "/>"

def startTag (tag : String) : String :=
  "<" ++ tag ++ ">"

def endTag (tag : String) : String :=
  "</" ++ tag ++ ">"

/-- The line of a cell; null is an empty element. -/
def cellLine : String × Json → String
  | (name, .null) => "    " ++ emptyElement name
  | (name, v) => "    " ++ startTag name ++ escapedText v.text ++ endTag name

def rowLines (rowTag : String) (r : Record) : List String :=
  ("  " ++ startTag rowTag) :: r.toList.map cellLine ++ ["  " ++ endTag rowTag]

def declarationLine : String :=
  "<?xml version=\"1.0\" encoding=\"UTF-8\"?>"

def xmlLines (rootTag rowTag : String) (declaration : Bool) (rows : List Record) : List String :=
  (if declaration then [declarationLine] else []) ++
    if rows.isEmpty then [emptyElement rootTag]
    else startTag rootTag :: rows.flatMap (rowLines rowTag) ++ [endTag rootTag]

def badColumn? (columns : List String) : Option (String × Nat) :=
  columns.zipIdx.find? fun (name, _) => !isTagName name

def xml (rows : List Record) (options : Members) (columns : List String) :
    Except Failure String := do
  let rootTag ← tagOption options "root_tag" "rows"
  let rowTag ← tagOption options "row_tag" "row"
  let declaration ← boolOption options "declaration" false
  match badColumn? columns with
  | some (name, i) =>
    .error
      { kind := .unsupportedOutputOption
        message := "mapping name '" ++ name ++ "' is not a valid tag name"
        path := some (Spec.itemPath "mappings" i ++ ".name") }
  | none => .ok (lines (xmlLines rootTag rowTag declaration rows))

/-! ## Other formats -/

def json (rows : List Record) : String :=
  (Json.array (rows.map Record.toJson)).pretty

def firstText (r : Record) : String :=
  (r.values.head?.map Json.text).getD ""

def plain (rows : List Record) (columns : List String) : Except Failure String :=
  if columns.length = 1 then .ok (lines (rows.map firstText))
  else
    .error
      { kind := .unsupportedOutputOption
        message := "text output needs exactly one mapping, spec has " ++ toString columns.length
        path := some "mappings" }

def render (rows : List Record) (target : Target) (columns : List String) : Except Failure String :=
  match target.format with
  | .csv => csv rows target.options columns
  | .json => .ok (json rows)
  | .xml => xml rows target.options columns
  | .text => plain rows columns

end Output
end Gleaner
