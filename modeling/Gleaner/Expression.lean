import Gleaner.Extraction
import Gleaner.Outcome
import Gleaner.Query.Evaluation
import Gleaner.Spec.Basic
import Gleaner.XPath.Evaluation
/-!
# Expressions on rows

Each kind of document has a language of expressions of its own. An expression is read once and
evaluated on many rows.

* `Row` is a row of a document, `Expression` an expression of one of the languages;
* `Expression.read` reads an expression, `Expression.checkRoot` says whether a text selects rows;
* `Expression.outcome` is the value on a row, `Expression.passes` the decision as a filter.
-/

namespace Gleaner

/-- A row: a value, or an element with the document it belongs to. -/
inductive Row where
  | json (v : Json)
  | xml (d : Xml.Document) (n : Nat)
  | html (d : Html.Document) (n : Nat)

def Row.dialect : Row → Dialect
  | .json _ => .json
  | .xml .. => .xml
  | .html .. => .html

inductive Expression where
  | json (q : Query)
  | xml (s : XPath.Selection)
  | html (x : Extractor)
  deriving Repr

namespace Expression

def dialect : Expression → Dialect
  | .json _ => .json
  | .xml _ => .xml
  | .html _ => .html

inductive Error where
  | query (e : Query.Error)
  | xpath (e : XPath.Error)
  | extraction (e : Extraction.Error)
  -- The row comes from another kind of document.
  | mismatch (expr row : Dialect)
  deriving DecidableEq, Repr

namespace Error

def message : Error → String
  | .query e => e.message
  | .xpath e => e.message
  | .extraction e => e.message
  | .mismatch expr row =>
    expr.name ++ " expression cannot be evaluated against a " ++ row.name ++ " row"

def isFatal : Error → Bool
  | .query e => e.isFatal
  | _ => false

end Error

/-- The expression that a text writes in the language of a kind of document. -/
def read (d : Dialect) (s : String) : Except Error Expression :=
  match d with
  | .json => ((Query.read s).map .json).mapError .query
  | .xml => ((XPath.Selection.read s).map .xml).mapError .xpath
  | .html => ((Extractor.read s).map .html).mapError .extraction

def checkRoot (d : Dialect) (s : String) : Except Error Unit :=
  match d with
  | .html => ((Extraction.readRoot s).map fun _ => ()).mapError .extraction
  | d => (read d s).map fun _ => ()

/-- The outcome of a value of the path language; a number that is not finite is nothing. -/
def outcomeOfValue (d : Xml.Document) : XPath.Value → Outcome
  | .nodes ns => .ofResults (ns.map fun n => .string (d.stringValue n))
  | .text s => some (.string s)
  | .number x => (Number.ofBinary? x).map .number
  | .bool b => some (.bool b)

def outcome (e : Expression) (row : Row) : Except Error Outcome :=
  match e, row with
  | .json q, .json v => ((q.eval v).map .ofResults).mapError .query
  | .xml s, .xml d n => ((s.value d n).map (outcomeOfValue d)).mapError .xpath
  | .html x, .html d n => .ok (.ofResults ((x.results d n).map .string))
  | e, row => .error (.mismatch e.dialect row.dialect)

/--
Whether a row passes an expression as a filter: some result is filled or not empty, or the value of
the path language is true.
-/
def passes (e : Expression) (row : Row) : Except Error Bool :=
  match e, row with
  | .json q, .json v => ((q.eval v).map fun vs => vs.any Json.isFilled).mapError .query
  | .xml s, .xml d n => ((s.value d n).map XPath.Value.truth).mapError .xpath
  | .html x, .html d n => .ok ((x.results d n).any fun s => !s.isEmpty)
  | e, row => .error (.mismatch e.dialect row.dialect)

end Expression
end Gleaner
