import Gleaner.Text.Cut
import Gleaner.Text.Blank
/-!
# The surface form of queries

A query may be anchored with a dollar sign, and may write `[*]` for `[]`. The native form has
neither.

* `replaceWildcards` rewrites `[*]` outside string literals;
* `anchored` replaces the leading dollar sign by the point it stands for;
* `normalize` trims the text and does both.
-/

namespace Gleaner
namespace Query

inductive Place where
  | code
  | literal
  -- In a string literal, directly after a backslash that is not escaped.
  | escaped
  deriving DecidableEq, Repr

/-- The place of the character after `c`. -/
def Place.after : Place → Char → Place
  | .code, c => if c = '"' then .literal else .code
  | .literal, c => if c = '\\' then .escaped else if c = '"' then .code else .literal
  | .escaped, _ => .literal

/-- Write `[]` for each `[*]` that stands outside string literals. -/
def replaceWildcards : Place → List Char → List Char
  | .code, '[' :: '*' :: ']' :: rest => '[' :: ']' :: replaceWildcards .code rest
  | place, c :: rest => c :: replaceWildcards (place.after c) rest
  | _, [] => []

/-- Replace a leading dollar sign by the native form: alone, before a point, or before a bracket. -/
def anchored : List Char → List Char
  | ['$'] => ['.']
  | '$' :: '.' :: rest => '.' :: rest
  | '$' :: '[' :: rest => '.' :: '[' :: rest
  | cs => cs

/-- The native form of a query text. -/
def normalize (source : List Char) : List Char :=
  replaceWildcards .code (anchored (Text.trim source))

end Query
end Gleaner
