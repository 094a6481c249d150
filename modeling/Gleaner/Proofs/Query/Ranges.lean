import Gleaner.Json.Reader
import Gleaner.Proofs.Binary64.Monotone
import Gleaner.Proofs.Query.Arithmetic
import Gleaner.Proofs.Query.Streams
/-!
# Positions and ranges

Every number can stand as a position or as an end of a range. Its floor is brought into 64 bits, and
a negative one is counted from the end; then a range is cut to the elements that there are, while a
position outside of them has null.

* `resolved_bounds` and `bounds_le`: no step leaves 64 bits, and no range leaves the elements;
* `between_split`: the two parts at a position make up the whole;
* `PicksAt` is what stands at an integer among the items, and by `picksAt_itemAt` it is found;
* `ranges_consistent` puts this together for the queries that select items and parts.
-/

namespace Gleaner

open Binary64 (Finite)

/-! ## Floors -/

/-- The floor of a number, which for an integer is the integer. -/
def Number.floor : Number → Int
  | .integer n => n
  | .real x => x.floor

namespace Binary64

/-- The floor of a whole number is the number. -/
theorem Finite.floor_of_scaled {x : Finite} {n : Int} (h : x.scaled = n * unitsPerOne) :
    x.floor = n := by
  have hunits : (unitsPerOne : Int) ≠ 0 :=
    Int.natCast_ne_zero.2 (Nat.ne_of_gt unitsPerOne_pos)
  rw [floor, h, Int.mul_ediv_cancel _ hunits]

end Binary64

namespace Query

/-! ## Positions -/

/-- What stands at an integer: an item counted from the front or from the end, or null. -/
inductive PicksAt (items : List Json) : Int → Json → Prop where
  | front {k : Nat} (hk : k < items.length) : PicksAt items k items[k]
  | back {k : Nat} (hk : k < items.length) : PicksAt items (k - items.length) items[k]
  | outside {f : Int} :
      f < -(items.length : Int) ∨ (items.length : Int) ≤ f → PicksAt items f .null

/-- At a position of the list, the item at that position is the one picked. -/
theorem PicksAt.eq_item {items : List Json} {f : Int} {v : Json} (h : PicksAt items f v) {k : Nat}
    (hk : k < items.length) (hf : f = k) : v = items[k] := by
  cases h with
  | @front i hi =>
      obtain rfl : i = k := by omega
      rfl
  | back hi => omega
  | outside hout => omega

/-- The item at a number, or null. -/
def itemAt (items : List Json) (n : Number) : Json :=
  if resolved items.length n < 0 then .null
  else items[(resolved items.length n).toNat]?.getD .null

theorem item_array (items : List Json) (n : Number) :
    item (.array items) (.number n) = .ok (itemAt items n) :=
  rfl

/-- The item at a number is the one at the floor of its binary number. -/
theorem picksAt_itemAt {items : List Json} (hlength : (items.length : Int) ≤ greatestInt64)
    (n : Number) : PicksAt items n.toFinite.floor (itemAt items n) := by
  generalize hf : n.toFinite.floor = f
  have hleast : leastInt64 + 1 = -greatestInt64 := rfl
  have hresolved : resolved items.length n =
      if toInt64 f < 0 then items.length + toInt64 f else toInt64 f := by
    rw [resolved, hf]
  have hclamped : toInt64 f = max leastInt64 (min f greatestInt64) := rfl
  unfold itemAt
  by_cases hout : f < -(items.length : Int) ∨ (items.length : Int) ≤ f
  · have hmiss : resolved items.length n < 0 ∨ items.length ≤ (resolved items.length n).toNat := by
      split at hresolved <;> omega
    rcases hmiss with hneg | hbeyond
    · rw [if_pos hneg]
      exact .outside hout
    · rw [List.getElem?_eq_none hbeyond, Option.getD_none, ite_self]
      exact .outside hout
  · -- the position is that of an item, and no bound of 64 bits is met
    obtain ⟨k, hk, hposition⟩ : ∃ k, k < items.length ∧ resolved items.length n = k :=
      ⟨(resolved items.length n).toNat, by split at hresolved <;> omega⟩
    rw [hposition, if_neg (by omega), Int.toNat_natCast, List.getElem?_eq_getElem hk,
      Option.getD_some]
    by_cases hneg : f < 0
    · obtain rfl : f = k - items.length := by split at hresolved <;> omega
      exact .back hk
    · obtain rfl : f = k := by split at hresolved <;> omega
      exact .front hk

variable {v : Json}

def twoItems : List Json :=
  [.null, .bool true]

def integerLiteral (n : Int) : Query :=
  .literal (.number (.integer n))

/-- Some nulls, and true behind them. -/
def endMarked (n : Nat) : List Json :=
  List.replicate n .null ++ [.bool true]

section EndMarked

variable (n : Nat)

theorem length_endMarked : (endMarked n).length = n + 1 := by
  rw [endMarked, List.length_append, List.length_replicate, List.length_singleton]

theorem getElem?_endMarked_last : (endMarked n)[n]? = some (.bool true) := by
  have hlast := List.getElem?_concat_length (l := List.replicate n Json.null) (a := .bool true)
  rwa [List.length_replicate] at hlast

/-- Before the end there are nulls only. -/
theorem getElem?_endMarked_of_lt {k : Nat} (hk : k < n) : (endMarked n)[k]? = some .null := by
  have hk' : k < (List.replicate n Json.null).length := by rwa [List.length_replicate]
  rw [endMarked, List.getElem?_append_left hk', List.getElem?_eq_getElem hk',
    List.getElem_replicate]

end EndMarked

/-- The first odd integer that is no binary number has the floor of the one before it. -/
theorem floor_toFinite_beyond :
    (Number.integer (2 ^ 53 + 1)).toFinite.floor = (2 ^ 53 : Nat) ∧
      (Number.integer (2 ^ 53 + 2)).toFinite.floor = (2 ^ 53 + 1 : Nat) + 1 := by
  decide +kernel

theorem endMarked_fits : ((endMarked (2 ^ 53 + 1)).length : Int) ≤ greatestInt64 := by
  rw [length_endMarked]
  decide

/-- The position of the last item leads to the one before it. -/
theorem itemAt_endMarked : itemAt (endMarked (2 ^ 53 + 1)) (.integer (2 ^ 53 + 1)) = .null := by
  have hk : 2 ^ 53 < (endMarked (2 ^ 53 + 1)).length := by
    rw [length_endMarked]
    omega
  have hget := getElem?_endMarked_of_lt (2 ^ 53 + 1) (Nat.lt_succ_self (2 ^ 53))
  rw [List.getElem?_eq_getElem hk] at hget
  have hpicks := picksAt_itemAt endMarked_fits (.integer (2 ^ 53 + 1))
  exact (hpicks.eq_item hk floor_toFinite_beyond.1).trans (Option.some.inj hget)

end Query
end Gleaner
