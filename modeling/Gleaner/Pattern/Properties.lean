import Gleaner.Text.Ranges
import Gleaner.Text.CaseVariants
import Gleaner.Text.Blank
import Gleaner.Text.CodePoint
/-!
# Character properties

The properties by which a pattern names a set of characters.
-/

namespace Gleaner
namespace Text

inductive Property where
  | decimalDigit | word | space | letter | uppercaseLetter | lowercaseLetter | numeral
  | punctuation | symbol | separator | mark
  deriving DecidableEq, Repr

def Property.holds (p : Property) (c : Char) : Bool :=
  match p with
  | .decimalDigit => inRanges decimalDigitRanges c.toNat
  | .word => inRanges wordRanges c.toNat
  | .space => isBlank c
  | .letter => inRanges letterRanges c.toNat
  | .uppercaseLetter => inRanges uppercaseLetterRanges c.toNat
  | .lowercaseLetter => inRanges lowercaseLetterRanges c.toNat
  | .numeral => inRanges numeralRanges c.toNat
  | .punctuation => inRanges punctuationRanges c.toNat
  | .symbol => inRanges symbolRanges c.toNat
  | .separator => inRanges separatorRanges c.toNat
  | .mark => inRanges markRanges c.toNat

/-- The names of properties, in lower case and without spaces, hyphens and underscores. -/
def Property.names : List (String × Property) :=
  [("nd", .decimalDigit), ("decimalnumber", .decimalDigit), ("digit", .decimalDigit),
    ("whitespace", .space), ("space", .space), ("wspace", .space),
    ("l", .letter), ("letter", .letter),
    ("lu", .uppercaseLetter), ("uppercaseletter", .uppercaseLetter),
    ("ll", .lowercaseLetter), ("lowercaseletter", .lowercaseLetter),
    ("n", .numeral), ("number", .numeral),
    ("p", .punctuation), ("punct", .punctuation), ("punctuation", .punctuation),
    ("s", .symbol), ("symbol", .symbol),
    ("z", .separator), ("separator", .separator),
    ("m", .mark), ("mark", .mark), ("combiningmark", .mark)]

/-- The property of a name; case, spaces, hyphens and underscores do not matter. -/
def Property.ofName? (name : List Char) : Option Property :=
  let plain := (name.filter fun c => c != ' ' && c != '-' && c != '_').map asciiLowerChar
  (names.find? fun (n, _) => n.toList == plain).map Prod.snd

end Text
end Gleaner
