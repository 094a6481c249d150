import Gleaner.Proofs.Query.ValueQuery
import Gleaner.Proofs.Template.QuerySubstitution
/-!
# Values that stand for themselves

An expression that is one hole, filled with a value of no declared type, is the value written as
JSON. As a query it gives the value back wherever the query language can write it.

* `fill_hole`: the filled expression is the compact text of the value;
* `fill_hole_keeps_value`: without objects inside of it, the value is the only result, with binary
  numbers for its numbers; with one, the expression is no query.
-/

namespace Gleaner
namespace Template

/-- At the end of a code without braces, a hole is filled with the value's text. -/
theorem fill_code_hole {b : Bindings} {code : List Char} {name : String} {v : Json}
    (hcode : ∀ c ∈ code, c ≠ '\x7b') (hname : Text.isName name = true)
    (hvalue : b.value name = .ok v) :
    fill .json b (String.ofList (code ++ (Piece.hole name).source)) =
      .ok (String.ofList (code ++ v.compact.toList)) := by
  have hapart : SetsApart (Piece.hole name).source := by
    have hslot := setsApart_slot (.bare name) []
    rwa [List.append_nil] at hslot
  have hhole : pieces (Piece.hole name).source = [.hole name] := by
    have hpieces := pieces_hole hname []
    rwa [List.append_nil, pieces_nil] at hpieces
  -- no quote stands behind the hole, so the value is written as a literal
  have hfilled : ∀ before, fillQuery b before [.hole name] = .ok v.compact.toList := by
    intro before
    have hquote : enclosingQuote? before (nextChar []) ≠ some '"' := by
      cases before <;> nofun
    rw [fillQuery_hole, hvalue]
    simp [Except.map, jsonLiteral, if_neg hquote, fillQuery, bind, Except.bind]
  rw [fill, String.toList_ofList, pieces_append hapart, pieces_of_no_brace hcode, hhole]
  simp [fillQuery_chars, hfilled, Except.map]

/-- The value of a variable without a declared type takes the place of its hole. -/
theorem fill_hole {b : Bindings} {name : String} {v : Json} (hname : Text.isName name = true)
    (htype : b.type? name = none) (hvalue : Members.get? name b.values = some v) :
    fill .json b (String.ofList (Piece.hole name).source) = .ok v.compact := by
  have hconvert : b.value name = .ok v := by
    rw [Bindings.value_eq_convert hvalue, htype]
    cases v <;> rfl
  have hfilled := @fill_code_hole b [] name v nofun hname hconvert
  rwa [List.nil_append, List.nil_append, String.ofList_toList] at hfilled

/--
A hole filled with a value of no declared type becomes the text of the value. If no object stands
inside of the value, the text is a query whose only result, on every input, is the value with the
nearest binary number for each number; it equals the value in the order of values, and a value that
is an integer comes back as itself exactly when its magnitude is below `2 ^ 53`. If an object stands
inside of the value, the text is no query.
-/
theorem fill_hole_keeps_value {b : Bindings} {name : String} {v : Json}
    (hname : Text.isName name = true) (htype : b.type? name = none)
    (hvalue : Members.get? name b.values = some v) (hrange : v.NumbersInRange) :
    fill .json b (String.ofList (Piece.hole name).source) = .ok v.compact ∧
      (¬ v.HoldsObject → ∃ q, Query.read v.compact = .ok q ∧
        ∀ input, q.eval input = .ok [v.inBinary]) ∧
      v.inBinary.compare v = .eq ∧
      (∀ n, v = .number (.integer n) → (v.inBinary = v ↔ n.natAbs < 2 ^ 53)) ∧
      (v.HoldsObject → ∃ e, Query.read v.compact = .error e) := by
  refine ⟨fill_hole hname htype hvalue, ?_, Json.compare_inBinary v, ?_, ?_⟩
  · intro hplain
    exact ⟨_, Query.read_compact hrange hplain, Query.eval_valueQuery hplain⟩
  · rintro n rfl
    exact Json.inBinary_integer_iff n
  · exact Query.read_compact_of_holdsObject hrange

/-- A list with a sign, an escaped quote, the text of a wildcard, and lists in lists. -/
def nestedValue : Json :=
  .array [.number (.integer (-3)), .string "[*]\"", .array [], .array [.null, .bool true]]

def nestedVariable : Bindings where
  values := [("v", nestedValue)]
  types := []

theorem nestedValue_numbersInRange : nestedValue.NumbersInRange := by
  intro n hn
  obtain rfl : n = .integer (-3) := by simpa [nestedValue, Json.everyValue, Json.everyItem] using hn
  exact ⟨by decide, by decide⟩

theorem nestedValue_plain : ¬ nestedValue.HoldsObject := by
  rintro ⟨members, hmem⟩
  simp [nestedValue, Json.everyValue, Json.everyItem] at hmem

/-- A nested array with a string like a wildcard is kept. -/
theorem fill_hole_keeps_value_of_nestedVariable :
    Text.isName "v" = true ∧ nestedVariable.type? "v" = none ∧
      Members.get? "v" nestedVariable.values = some nestedValue ∧ nestedValue.NumbersInRange ∧
      nestedValue.compact = "[-3,\"[*]\\\"\",[],[null,true]]" ∧
      ∃ q, Query.read nestedValue.compact = .ok q ∧
        ∀ input, q.eval input = .ok [nestedValue.inBinary] := by
  have hname : Text.isName "v" = true := by decide
  have hrange := nestedValue_numbersInRange
  have hkeeps := fill_hole_keeps_value (b := nestedVariable) hname rfl rfl hrange
  exact ⟨hname, rfl, rfl, hrange, by decide +kernel, hkeeps.2.1 nestedValue_plain⟩

/-- The first integer that no binary number of 64 bits is equal to. -/
def firstGap : Int :=
  2 ^ 53 + 1

/-- An object is no query, and an integer between two binary numbers is not kept. -/
theorem not_every_value_kept :
    (¬ ∀ (b : Bindings) (v : Json), b.type? "v" = none → Members.get? "v" b.values = some v →
        v.NumbersInRange → ∃ text q,
          fill .json b "\x7b\x7bv\x7d\x7d" = .ok text ∧ Query.read text = .ok q) ∧
      ¬ ∀ (b : Bindings) (n : Int) (text : String) (q : Query) (r : Json), b.type? "v" = none →
        Members.get? "v" b.values = some (.number (.integer n)) → (Number.integer n).InRange →
          fill .json b "\x7b\x7bv\x7d\x7d" = .ok text → Query.read text = .ok q →
            q.eval .null = .ok [r] → r.compact = toString n := by
  have hhole : "\x7b\x7bv\x7d\x7d" = String.ofList (Piece.hole "v").source := rfl
  have hname : Text.isName "v" = true := by decide
  rw [hhole]
  constructor
  · intro h
    have hrange : (Json.object [("a", .ofNat 1)]).NumbersInRange := by
      intro n hn
      obtain rfl : n = .integer 1 := by
        simpa [Json.everyValue, Json.everyMember, Json.ofNat] using hn
      exact ⟨by decide, by decide⟩
    rcases h ⟨[("v", .object [("a", .ofNat 1)])], []⟩ _ rfl rfl hrange with
      ⟨text, q, hfill, hread⟩
    rw [fill_hole hname rfl rfl] at hfill
    cases hfill
    rcases Query.read_compact_of_holdsObject hrange (Json.holdsObject_object _) with ⟨e, herror⟩
    rw [herror] at hread
    cases hread
  · intro h
    -- the integer lies halfway between two binary numbers, and is rounded to the even one
    have hin : (Number.integer firstGap).InRange := ⟨by decide, by decide⟩
    have hplain : ¬ (Json.number (.integer firstGap)).HoldsObject := by
      rintro ⟨members, hmem⟩
      simp [Json.everyValue] at hmem
    have hread := Query.read_compact (Json.numbersInRange_number.2 hin) hplain
    have hkept := h ⟨[("v", .number (.integer firstGap))], []⟩ firstGap _ _ _ rfl rfl hin
      (fill_hole hname rfl rfl) hread (Query.eval_valueQuery hplain .null)
    exact absurd hkept (by decide +kernel)

end Template
end Gleaner
