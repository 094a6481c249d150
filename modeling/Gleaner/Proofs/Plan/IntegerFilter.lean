import Gleaner.Proofs.Json.IntegerOrder
import Gleaner.Proofs.Plan.RowFate
import Gleaner.Proofs.Query.MemberComparison
import Gleaner.Proofs.Template.InlineValue
/-!
# Filters on integers

A filter asks for the rows with a certain number in a member by a condition such as
`id == {{id}}`. Both numbers are compared as binary numbers of 64 bits.

* `Spec.AsksFor` says what filter is meant, and `Spec.decides_of_asksFor` what it decides;
* `integers_compared_by_nearest` says how exact the comparison of two integers is, and which rows
  the filter keeps.
-/

namespace Gleaner

open Binary64 (Finite)
open Query (NamesMember memberComparison spaced numberQuery)

namespace Spec

variable {spec : Spec} {values : Members} {f : Filter} {field : String} {n : Number}

/-- The filter asks for the rows in which a member is equal to a variable, which is a number. -/
structure AsksFor (spec : Spec) (values : Members) (f : Filter) (field : String) (n : Number) :
    Prop where
  dialect : spec.input.dialect = .json
  isMember : NamesMember field
  isVariable : ∃ name, Text.isName name = true ∧
    f.expr = field ++ " == \x7b\x7b" ++ name ++ "\x7d\x7d" ∧
    (Plan.bindings spec values).value name = .ok (.number n)

/-- The expression of the filter, with its hole filled, is read as a comparison. -/
theorem reads_of_asksFor (h : spec.AsksFor values f field n) (hn : n.InRange) :
    spec.Reads values f.expr (String.ofList (memberComparison field .eq n))
      (.json (.compare .eq (.field .identity field) (numberQuery n))) := by
  rcases h.isVariable with ⟨name, hname, hexpr, hvalue⟩
  -- the only hole is the one after the comparison
  have hbraces : ∀ c ∈ field.toList ++ spaced .eq, c ≠ '\x7b' := by
    rcases Text.exists_cons_of_isName h.isMember.isName with ⟨c, rest, hcons, hc, hrest⟩
    rw [List.forall_mem_append, hcons, List.forall_mem_cons]
    refine ⟨⟨?_, fun d hd => ?_⟩, Query.forall_mem_of_all (by decide)⟩
    · rintro rfl
      cases hc
    · rintro rfl
      cases hrest _ hd
  have hsource : f.expr = String.ofList (field.toList ++ spaced .eq ++
      (Template.Piece.hole name).source) := by
    rw [hexpr, ← String.toList_inj]
    simp [Template.Piece.source, spaced, Comparison.symbol]
  have hfill := Template.fill_code_hole hbraces hname hvalue
  refine ⟨?_, ?_⟩
  · rw [Fills, h.dialect, hsource, hfill]
    simp [memberComparison, Json.compact]
  · rw [h.dialect, Expression.read.eq_def, Query.read_memberComparison h.isMember .eq hn]
    rfl

/-- The filter decides by the order of the member and the number. -/
theorem decides_of_asksFor (h : spec.AsksFor values f field n) (hn : n.InRange)
    (members : Members) :
    spec.Decides values (.json (.object members)) f
      (Json.compare ((Members.get? field members).getD .null) (.number n) == .eq) := by
  refine ⟨_, _, reads_of_asksFor h hn, ?_⟩
  have heval := Query.eval_memberComparison field .eq n members
  simp [Expression.passes, heval, Except.map, Except.mapError, Json.isFilled, Comparison.holds]

end Spec

/--
Two integers are compared as the nearest binary numbers. Their order is never turned round, and it
is exact unless two different integers have one binary number, as it cannot be when one of them is
below `2 ^ 53`. A filter that asks for an integer keeps the rows whose integer has the same binary
number, hence only those with the integer itself when this is below `2 ^ 53`.
-/
theorem integers_compared_by_nearest :
    (∀ m n : Int, (Number.integer m).InRange → (Number.integer n).InRange →
      (integerOrder m n = .lt → m < n) ∧ (integerOrder m n = .gt → n < m) ∧
      (integerOrder m n = Ord.compare m n ↔ m = n ∨ Finite.ofInt m ≠ Finite.ofInt n) ∧
      (m.natAbs < 2 ^ 53 ∨ n.natAbs < 2 ^ 53 → integerOrder m n = Ord.compare m n)) ∧
    ∀ (spec : Spec) (values : Members) (f : Filter) (field : String) (n : Int),
      (Number.integer n).InRange → spec.AsksFor values f field (.integer n) →
      ∀ (members : Members) (m : Int), Members.get? field members = some (.number (.integer m)) →
        (Number.integer m).InRange →
        spec.Decides values (.json (.object members)) f
          (decide (Finite.ofInt m = Finite.ofInt n)) ∧
        (n.natAbs < 2 ^ 53 →
          (spec.Decides values (.json (.object members)) f true ↔ m = n)) := by
  refine ⟨?_, ?_⟩
  · intro m n hm hn
    refine ⟨?_, ?_, integerOrder_exact_iff hm hn, ?_⟩
    · intro hlt
      by_contra hge
      have hne := integerOrder_ne_gt hn hm (Int.not_lt.1 hge)
      rw [integerOrder_swap, hlt] at hne
      exact hne rfl
    · intro hgt
      by_contra hle
      exact integerOrder_ne_gt hm hn (Int.not_lt.1 hle) hgt
    · intro hsmall
      rw [integerOrder_exact_iff hm hn, Ne, ofInt_inj_of_small hm hn hsmall]
      exact em _
  · intro spec values f field n hn h members m hget hm
    have horder : (Json.compare (.number (.integer m)) (.number (.integer n)) == .eq) =
        decide (Finite.ofInt m = Finite.ofInt n) := by
      rw [Bool.eq_iff_iff, beq_iff_eq, decide_eq_true_iff]
      exact integerOrder_eq_iff hm hn
    have hfilter := Spec.decides_of_asksFor h hn members
    rw [hget, Option.getD_some, horder] at hfilter
    refine ⟨hfilter, fun hsmall => ?_⟩
    rw [← ofInt_inj_of_small hm hn (.inr hsmall)]
    constructor
    · intro htrue
      exact of_decide_eq_true (hfilter.unique htrue)
    · intro heq
      rwa [decide_eq_true heq] at hfilter

def idRows : Spec where
  version := 1
  name := "ids"
  input := ⟨.json, "."⟩
  output := ⟨.text, []⟩
  mappings := [⟨"id", "id", .number, none⟩]
  filters := [⟨none, "id == \x7b\x7bid\x7d\x7d"⟩]
  onMissing := .error
  parameters := []

theorem asksFor_idRows (n : Int) :
    idRows.AsksFor [("id", .number (.integer n))] ⟨none, "id == \x7b\x7bid\x7d\x7d"⟩ "id"
      (.integer n) where
  dialect := rfl
  isMember := ⟨by decide, rfl, by decide⟩
  isVariable := ⟨"id", by decide, rfl, rfl⟩

/-- A small and a large identifier that round differently are told apart by the filter. -/
theorem integers_compared_by_nearest_of_idRows :
    integerOrder (-3) Template.firstGap = Ord.compare (-3) Template.firstGap ∧
      idRows.Decides [("id", .number (.integer 7))] (.json (.object [("id", .number (.integer 7))]))
        ⟨none, "id == \x7b\x7bid\x7d\x7d"⟩ true ∧
      ¬ idRows.Decides [("id", .number (.integer 7))]
        (.json (.object [("id", .number (.integer Template.firstGap))]))
        ⟨none, "id == \x7b\x7bid\x7d\x7d"⟩ true := by
  rcases integers_compared_by_nearest with ⟨horder, hfilter⟩
  have hseven : (Number.integer 7).InRange := ⟨by decide, by decide⟩
  have hgap : (Number.integer Template.firstGap).InRange := ⟨by decide, by decide⟩
  have hkeeps := hfilter idRows _ _ "id" 7 hseven (asksFor_idRows 7)
  refine ⟨?_, ?_, ?_⟩
  · exact (horder (-3) _ ⟨by decide, by decide⟩ hgap).2.2.2 (.inl (by decide))
  · exact ((hkeeps _ 7 rfl hseven).2 (by decide)).2 rfl
  · intro hkept
    have hequal := ((hkeeps _ Template.firstGap rfl hgap).2 (by decide)).1 hkept
    exact absurd hequal (by decide)

/-- Two integers with one binary number: they are equal as values, and a filter keeps both. -/
theorem integers_not_compared_exactly :
    integerOrder (2 ^ 53) Template.firstGap = .eq ∧
      idRows.transform
        "[\x7b\"id\":9007199254740992\x7d,\x7b\"id\":9007199254740993\x7d]"
        [("id", .number (.integer Template.firstGap))] .none =
        .ok "9007199254740992\n9007199254740993" := by
  constructor
  · decide +kernel
  · decide +kernel

end Gleaner
