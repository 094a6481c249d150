/-!
# Names

A name begins with an ASCII letter or an underscore and goes on with such letters, digits and
underscores.

* `isNameStart`, `isNameChar` are the characters of names;
* `isName` says that a whole text is a name.
-/

namespace Gleaner
namespace Text

def isNameStart (c : Char) : Bool :=
  c.isAlpha || c == '_'

def isNameChar (c : Char) : Bool :=
  c.isAlphanum || c == '_'

theorem isNameChar_of_isNameStart {c : Char} (h : isNameStart c = true) : isNameChar c = true := by
  simp only [isNameStart, Bool.or_eq_true] at h
  simp only [isNameChar, Char.isAlphanum, Bool.or_eq_true]
  exact h.imp Or.inl id

def isNameChars : List Char → Bool
  | [] => false
  | c :: rest => isNameStart c && rest.all isNameChar

def isName (s : String) : Bool :=
  isNameChars s.toList

end Text
end Gleaner
