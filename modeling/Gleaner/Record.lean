import Gleaner.Json.Basic
/-!
# Records

A record is a row of the output: values by column name, in the order in which they were pushed.

* `push`, `get?` and `toList` write and read a record;
* `toJson` is the record as an object.
-/

namespace Gleaner

structure Record where
  cells : List (String × Json)
  deriving Repr

namespace Record

def empty : Record :=
  ⟨[]⟩

def push (r : Record) (name : String) (value : Json) : Record :=
  ⟨r.cells ++ [(name, value)]⟩

/-- The value of the first column of a name. -/
def get? (r : Record) (name : String) : Option Json :=
  Members.get? name r.cells

def toList (r : Record) : List (String × Json) :=
  r.cells

def values (r : Record) : List Json :=
  r.cells.map Prod.snd

/-- The record as an object; of two columns of one name the later value counts. -/
def toJson (r : Record) : Json :=
  .object (Members.insertAll [] r.cells)

@[simp] theorem toList_empty : empty.toList = [] := rfl

end Record
end Gleaner
