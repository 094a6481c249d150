/-!
# Blank characters and trimming

Every part of the library that ignores surrounding space uses one notion of space: the characters
with the Unicode `White_Space` property.

* `isBlank` decides the property;
* `trim`, `trimStart`, `trimEnd` remove blank characters from the ends of a character list;
* `isBlankText` says that nothing but space is left;
* `asciiLower`, `asciiUpper` change the case of the 26 ASCII letters and of nothing else.
-/

namespace Gleaner
namespace Text

/-- The characters with the Unicode `White_Space` property. -/
def isBlank (c : Char) : Bool :=
  let n := c.toNat
  (0x09 ≤ n && n ≤ 0x0D) || n == 0x20 || n == 0x85 || n == 0xA0 || n == 0x1680 ||
    (0x2000 ≤ n && n ≤ 0x200A) || n == 0x2028 || n == 0x2029 || n == 0x202F ||
    n == 0x205F || n == 0x3000

def trimStart (cs : List Char) : List Char :=
  cs.dropWhile isBlank

def trimEnd (cs : List Char) : List Char :=
  (cs.reverse.dropWhile isBlank).reverse

def trim (cs : List Char) : List Char :=
  trimEnd (trimStart cs)

def trimmed (s : String) : String :=
  String.ofList (trim s.toList)

/-- Nothing but blank characters, or nothing at all. -/
def isBlankText (s : String) : Bool :=
  s.toList.all isBlank

/-- An ASCII letter in lower case; every other character unchanged. -/
def asciiLowerChar (c : Char) : Char :=
  if 'A' ≤ c ∧ c ≤ 'Z' then Char.ofNat (c.toNat + 32) else c

/-- An ASCII letter in upper case; every other character unchanged. -/
def asciiUpperChar (c : Char) : Char :=
  if 'a' ≤ c ∧ c ≤ 'z' then Char.ofNat (c.toNat - 32) else c

def asciiLower (s : String) : String :=
  String.ofList (s.toList.map asciiLowerChar)

def asciiUpper (s : String) : String :=
  String.ofList (s.toList.map asciiUpperChar)

end Text
end Gleaner
