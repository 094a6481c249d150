import Gleaner.Proofs.Plan.Pipeline
import Gleaner.Transform
/-!
# Limits

A run settles every row, whatever its limits are: they cut the records of the whole run, after every
row had its chance to fail.

* `Limits.caps` are the caps that are set, and `Limits.Within` compares two limits by them;
* `Spec.records_eq_map_cut`: a limited run is the unlimited one with its records cut;
* `Output.render_eq_error_iff`: whether rows can be written does not depend on the rows;
* `Output.lines_isPrefix`: fewer lines are written as the beginning of more lines;
* `Spec.limits_only_truncate` puts this together for runs and for their outputs.
-/

namespace Gleaner

namespace Limits

variable {limits tighter looser : Limits} {n : Nat}

def caps (l : Limits) : List Nat :=
  l.limit.toList ++ l.preview.toList

/-- Every cap of the second limits is met by a cap of the first. -/
def Within (tighter looser : Limits) : Prop :=
  ∀ m ∈ looser.caps, ∃ n ∈ tighter.caps, n ≤ m

theorem effective_eq_none_iff : limits.effective = .none ↔ limits.caps = [] := by
  rcases limits with ⟨_ | a, _ | b⟩ <;> simp [effective, caps]

theorem effective_eq_some_iff :
    limits.effective = some n ↔ n ∈ limits.caps ∧ ∀ m ∈ limits.caps, n ≤ m := by
  rcases limits with ⟨_ | a, _ | b⟩ <;> simp [effective, caps] <;> omega

variable {α : Type} (all : List α)

theorem cut_of_no_caps (h : limits.caps = []) : limits.cut all = all := by
  unfold cut
  rw [effective_eq_none_iff.2 h]

theorem cut_of_least (hmem : n ∈ limits.caps) (hle : ∀ m ∈ limits.caps, n ≤ m) :
    limits.cut all = all.take n := by
  unfold cut
  rw [effective_eq_some_iff.2 ⟨hmem, hle⟩]

/-- Either nothing is cut, or the least cap cuts. -/
theorem cut_cases (limits : Limits) :
    (limits.caps = [] ∧ limits.cut all = all) ∨
      ∃ n, n ∈ limits.caps ∧ (∀ m ∈ limits.caps, n ≤ m) ∧ limits.cut all = all.take n := by
  cases heff : limits.effective with
  | none =>
      have hcaps := effective_eq_none_iff.1 heff
      exact .inl ⟨hcaps, cut_of_no_caps all hcaps⟩
  | some n =>
      rcases effective_eq_some_iff.1 heff with ⟨hmem, hle⟩
      exact .inr ⟨n, hmem, hle, cut_of_least all hmem hle⟩

/-- Tighter limits leave a front part of what looser ones leave. -/
theorem cut_isPrefix (h : tighter.Within looser) : tighter.cut all <+: looser.cut all := by
  rcases looser.cut_cases all with ⟨_, hall⟩ | ⟨m, hm, _, htake⟩
  · rw [hall]
    rcases tighter.cut_cases all with ⟨_, hcut⟩ | ⟨n, _, _, hcut⟩
    · rw [hcut]
    · rw [hcut]
      exact List.take_prefix n all
  · -- the cap that meets the looser one is not below the least of the tighter caps
    rcases h m hm with ⟨k, hk, hkm⟩
    rcases tighter.cut_cases all with ⟨hnone, _⟩ | ⟨n, _, hle, hcut⟩
    · rw [hnone] at hk
      cases hk
    · rw [hcut, htake]
      exact List.take_prefix_take_left ((hle k hk).trans hkm)

end Limits

/-! ## Output of fewer rows -/

namespace Output

variable {rows more : List Record} {target : Target} {columns : List String} {f : Failure}

/-- Nothing that rendering refuses depends on the rows. -/
theorem render_eq_error_iff :
    render rows target columns = .error f ↔ render more target columns = .error f := by
  unfold render
  cases target.format with
  | csv => simp [csv, Except.bind_eq_error_iff]
  | json => simp
  | xml =>
      -- column names are checked before any row is written
      simp only [xml, Except.bind_eq_error_iff]
      cases badColumn? columns with
      | none => simp
      | some bad => rfl
  | text =>
      -- plain lines need a single column, whatever the rows are
      unfold plain
      by_cases hone : columns.length = 1
      · simp [hone]
      · simp [hone]

/-- Fewer lines make a front part of the text. -/
theorem lines_isPrefix (ls rest : List String) :
    (lines ls).toList <+: (lines (ls ++ rest)).toList := by
  induction ls with
  | nil => exact List.nil_prefix
  | cons l ls ih =>
      cases ls with
      | cons m ls =>
          -- the first line and its line feed stand at the front of both texts
          rw [List.cons_append, List.cons_append, toList_lines_cons_cons, toList_lines_cons_cons]
          rw [List.prefix_append_right_inj, List.cons_prefix_cons]
          exact ⟨rfl, ih⟩
      | nil =>
          cases rest with
          | nil => exact List.prefix_rfl
          | cons m rest =>
              rw [List.singleton_append, toList_lines_cons_cons, lines_singleton]
              exact List.prefix_append _ _

/-- Delimited output and plain lines grow at the end. -/
theorem render_append (hformat : target.format = .csv ∨ target.format = .text) {out : String}
    (h : render (rows ++ more) target columns = .ok out) :
    ∃ short rest, render rows target columns = .ok short ∧ out = short ++ rest := by
  have hgrow : ∀ ls newer, ∃ rest, lines (ls ++ newer) = lines ls ++ rest := by
    intro ls newer
    rcases lines_isPrefix ls newer with ⟨rest, hrest⟩
    exact ⟨String.ofList rest, String.toList_inj.1 (by simpa using hrest.symm)⟩
  unfold render at h ⊢
  rcases hformat with hformat | hformat
  · -- the header, if there is one, is the first line of both outputs
    rw [hformat] at h ⊢
    rcases Except.bind_eq_ok_iff.1 h with ⟨sep, hsep, hnext⟩
    rcases Except.bind_eq_ok_iff.1 hnext with ⟨header, hheader, hlines⟩
    cases hlines
    rcases hgrow (csvLines sep header rows columns)
      (more.map fun r => fieldLine sep (r.values.map Json.text)) with ⟨rest, hrest⟩
    refine ⟨lines (csvLines sep header rows columns), rest, ?_, ?_⟩
    · simp [csv, hsep, hheader, bind, Except.bind]
    · rw [← hrest]
      simp [csvLines]
  · rw [hformat] at h ⊢
    simp only [plain] at h ⊢
    by_cases hone : columns.length = 1
    · rw [if_pos hone] at h ⊢
      cases h
      rcases hgrow (rows.map firstText) (more.map firstText) with ⟨rest, hrest⟩
      refine ⟨_, rest, rfl, ?_⟩
      rw [← hrest, List.map_append]
    · rw [if_neg hone] at h
      cases h

end Output

/-! ## Limited runs -/

namespace Spec

variable {spec : Spec} {input : String} {given : Members} {limits tighter looser : Limits}
  {f : Failure}

/-- A limited run is the unlimited one with its records cut. -/
theorem records_eq_map_cut :
    spec.records input given limits = (spec.records input given .none).map limits.cut := by
  -- the limits are first looked at when all rows are settled
  unfold records
  simp only
  cases spec.shapeFlaws.isEmpty with
  | false => rfl
  | true =>
      cases Document.read spec.input.dialect input with
      | error e => rfl
      | ok d =>
          simp only [bind, Except.bind]
          cases spec.evaluate d (spec.values given) <;> rfl

theorem records_eq_error_iff :
    spec.records input given limits = .error f ↔ spec.records input given .none = .error f := by
  rw [records_eq_map_cut, Except.map_eq_error_iff]

/-- Tighter limits give a front part of the records. -/
theorem records_isPrefix (h : tighter.Within looser) {short long : List Record}
    (hshort : spec.records input given tighter = .ok short)
    (hlong : spec.records input given looser = .ok long) : short <+: long := by
  rw [records_eq_map_cut, Except.map_eq_ok_iff] at hshort hlong
  rcases hshort with ⟨all, hall, rfl⟩
  rcases hlong with ⟨all', hall', rfl⟩
  rw [hall] at hall'
  cases hall'
  exact Limits.cut_isPrefix all h

/-- Limits neither cause nor hide a failure. -/
theorem transform_eq_error_iff {other : Limits} :
    spec.transform input given limits = .error f ↔ spec.transform input given other = .error f := by
  unfold transform
  have hother : spec.records input given other =
      (spec.records input given .none).map other.cut := records_eq_map_cut
  rw [records_eq_map_cut, hother]
  cases spec.records input given .none with
  | error e => rfl
  | ok all => exact Output.render_eq_error_iff

/-- Where the format has no closing text, tighter limits give a front part of the output. -/
theorem transform_isPrefix (h : tighter.Within looser)
    (hformat : spec.output.format = .csv ∨ spec.output.format = .text) {long : String}
    (hlong : spec.transform input given looser = .ok long) :
    ∃ short rest, spec.transform input given tighter = .ok short ∧ long = short ++ rest := by
  rcases Except.bind_eq_ok_iff.1 hlong with ⟨many, hmany, hrender⟩
  have hall := hmany
  rw [records_eq_map_cut, Except.map_eq_ok_iff] at hall
  rcases hall with ⟨all, hall, _⟩
  have hfew : spec.records input given tighter = .ok (tighter.cut all) := by
    rw [records_eq_map_cut, hall]
    rfl
  -- the looser output has the records of the tighter one and some newer ones
  rcases records_isPrefix h hfew hmany with ⟨newer, rfl⟩
  rcases Output.render_append hformat hrender with ⟨short, rest, hshort, heq⟩
  exact ⟨short, rest, Except.bind_eq_ok_iff.2 ⟨_, hfew, hshort⟩, heq⟩

/--
Limits only truncate. A run fails with limits exactly when it fails without them, and with the same
failure. Otherwise it gives the records of the unlimited run up to the least cap that is set, so
tighter limits give a prefix of the records. The output fails alike, and in the formats that are
written line by line a tighter output is a beginning of the looser one.
-/
theorem limits_only_truncate (spec : Spec) (input : String) (given : Members) :
    (∀ limits f,
      spec.records input given limits = .error f ↔ spec.records input given .none = .error f) ∧
    (∀ all, spec.records input given .none = .ok all → ∀ limits : Limits,
      (limits.caps = [] → spec.records input given limits = .ok all) ∧
        ∀ n, n ∈ limits.caps → (∀ m ∈ limits.caps, n ≤ m) →
          spec.records input given limits = .ok (all.take n)) ∧
    ∀ tighter looser : Limits, tighter.Within looser →
      (∀ short long, spec.records input given tighter = .ok short →
        spec.records input given looser = .ok long → short <+: long) ∧
      (∀ f, spec.transform input given tighter = .error f ↔
        spec.transform input given looser = .error f) ∧
      (spec.output.format = .csv ∨ spec.output.format = .text → ∀ long,
        spec.transform input given looser = .ok long →
          ∃ short rest, spec.transform input given tighter = .ok short ∧ long = short ++ rest) := by
  refine ⟨fun _ _ => records_eq_error_iff, ?_, ?_⟩
  · intro all hall limits
    have hcut : spec.records input given limits = .ok (limits.cut all) := by
      rw [records_eq_map_cut, hall]
      rfl
    refine ⟨?_, ?_⟩
    · intro hnone
      rw [hcut, Limits.cut_of_no_caps all hnone]
    · intro n hmem hle
      rw [hcut, Limits.cut_of_least all hmem hle]
  · intro tighter looser hwithin
    refine ⟨?_, fun _ => transform_eq_error_iff, ?_⟩
    · intro short long hshort hlong
      exact records_isPrefix hwithin hshort hlong
    · intro hformat long hlong
      exact transform_isPrefix hwithin hformat hlong

/-- The notes of a list, as delimited lines without a header. -/
def noteLines : Spec where
  version := 1
  name := "notes"
  input := ⟨.json, "."⟩
  output := ⟨.csv, [("header", .bool false)]⟩
  mappings := [⟨"note", "note", .string, none⟩]
  filters := []
  onMissing := .null
  parameters := []

/-- Three notes; the second one is missing and becomes an empty line. -/
def threeNotes : String :=
  "[\x7b\"note\":\"a\"\x7d,\x7b\x7d,\x7b\"note\":\"c\"\x7d]"

def threeNoteRecords : List Record :=
  [⟨[("note", .string "a")]⟩, ⟨[("note", .null)]⟩, ⟨[("note", .string "c")]⟩]

/-- Of three notes the first two are left, and their text is the front of the whole text. -/
theorem limits_only_truncate_of_noteLines :
    noteLines.records threeNotes [] .none = .ok threeNoteRecords ∧
      noteLines.records threeNotes [] ⟨some 2, some 5⟩ = .ok (threeNoteRecords.take 2) ∧
      noteLines.transform threeNotes [] .none = .ok "a\n\nc" ∧
      ∃ short rest, noteLines.transform threeNotes [] ⟨some 2, some 5⟩ = .ok short ∧
        "a\n\nc" = short ++ rest := by
  have hall : noteLines.records threeNotes [] .none = .ok threeNoteRecords := by cbv
  have hrun : noteLines.transform threeNotes [] .none = .ok "a\n\nc" := by decide +kernel
  have hwithin : Limits.Within ⟨some 2, some 5⟩ .none := by
    intro m hm
    cases hm
  rcases limits_only_truncate noteLines threeNotes [] with ⟨_, hfirst, hpair⟩
  refine ⟨hall, (hfirst _ hall _).2 2 (by decide) (by decide), hrun, ?_⟩
  exact (hpair _ _ hwithin).2.2 (.inl rfl) _ hrun

end Spec
end Gleaner
