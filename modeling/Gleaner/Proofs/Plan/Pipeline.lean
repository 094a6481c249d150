import Gleaner.Proofs.Plan.RowFate
/-!
# The rows of a run

A run takes the selected rows one after another. Here the run is compared with the fates that the
specification gives to each row by itself:

* `Spec.Keeps`: the row passes all filters and is not skipped;
* `Plan.settleAll_eq_ok` and `Plan.settleAll_eq_error`: what a run over some rows gives, by
  induction on the rows;
* `Spec.evaluate_gives_fates`: the records are those of the kept rows, in order, unless a row fails,
  and then the failure is that of the first such row.
-/

namespace Gleaner

open Plan

namespace Spec

variable {spec : Spec} {values : Members} {row : Row} {i : Nat} {f : Failure}

/-- The row passes all filters and is not skipped. -/
def Keeps (spec : Spec) (values : Members) (row : Row) : Prop :=
  spec.Passes values row ∧ ¬ spec.Skips values row

/-- The place of a failure on a row: a filter or a mapping, by its position, with its text. -/
inductive FailsAt (spec : Spec) (values : Members) (i : Nat) (f : Failure) : Prop where
  | filter {j : Nat} {step : Filter} {text : String} :
      spec.filters[j]? = some step → spec.Fills values step.expr text → f.row = some i →
      f.path = some (itemPath "filters" j) → f.expr = some text → FailsAt spec values i f
  | mapping {j : Nat} {step : Mapping} {text : String} :
      spec.mappings[j]? = some step → spec.Fills values step.expr text → f.row = some i →
      f.path = some (itemPath "mappings" j) → f.expr = some text → FailsAt spec values i f

/-- A failure on a row stands at a filter or a mapping, with the text that was filled in. -/
theorem Fails.place (h : spec.Fails values i row f) : spec.FailsAt values i f := by
  cases h with
  | @filter before after step text x e heq _ hread _ =>
      have hget : spec.filters[before.length]? = some step := by simp [heq]
      exact .filter hget hread.fills rfl rfl rfl
  | @mapping before after step text x e _ heq _ hread _ =>
      have hget : spec.mappings[before.length]? = some step := by simp [heq]
      exact .mapping hget hread.fills rfl rfl rfl
  | @missing before after step text _ heq _ hfills _ _ =>
      have hget : spec.mappings[before.length]? = some step := by simp [heq]
      exact .mapping hget hfills rfl rfl rfl

end Spec

/-! ## One row -/

namespace Plan

variable {spec : Spec} {values : Members} {row : Row} {root : String} {p : Plan} {i : Nat}

/-- What the specification says of a row, and what the plan then makes of it. -/
theorem settle_cases (hc : spec.Compiles values root) (hp : Plan.make spec values = .ok p) (i : Nat)
    (row : Row) :
    (spec.Drops values row ∧ p.settle i row = .ok none) ∨
      (spec.Passes values row ∧ spec.Skips values row ∧ p.settle i row = .ok none) ∨
        (∃ r, spec.Passes values row ∧ spec.Yields values row r ∧
          p.settle i row = .ok (some r)) ∨
          ∃ f, spec.Fails values i row f ∧ p.settle i row = .error f := by
  rcases spec.fate_cases hc i row with hdrop | ⟨hpass, hskip⟩ | ⟨r, hpass, hyields⟩ | ⟨f, hf⟩
  · exact .inl ⟨hdrop, settle_of_drops hp hdrop⟩
  · exact .inr (.inl ⟨hpass, hskip, settle_of_skips hp hpass hskip⟩)
  · exact .inr (.inr (.inl ⟨r, hpass, hyields, settle_of_yields hp hpass hyields⟩))
  · exact .inr (.inr (.inr ⟨f, hf, settle_of_fails hp hf⟩))

/-- A plan gives a record for a row that is kept, and the one the row yields. -/
theorem settle_eq_some (hc : spec.Compiles values root) (hp : Plan.make spec values = .ok p)
    {r : Record} (h : p.settle i row = .ok (some r)) :
    spec.Keeps values row ∧ spec.Yields values row r := by
  rcases settle_cases hc hp i row with
    ⟨_, hs⟩ | ⟨_, _, hs⟩ | ⟨r', hpass, hyields, hs⟩ | ⟨f, _, hs⟩
  · cases hs.symm.trans h
  · cases hs.symm.trans h
  · cases hs.symm.trans h
    refine ⟨⟨hpass, ?_⟩, hyields⟩
    intro hskip
    cases (settle_of_skips hp hpass hskip).symm.trans h
  · cases hs.symm.trans h

/-- A plan gives nothing only for a row that is not kept. -/
theorem settle_eq_none (hc : spec.Compiles values root) (hp : Plan.make spec values = .ok p)
    (h : p.settle i row = .ok none) : ¬ spec.Keeps values row := by
  rintro ⟨hpass, hskip⟩
  rcases settle_cases hc hp i row with
    ⟨hdrop, _⟩ | ⟨_, hskip', _⟩ | ⟨r, _, _, hs⟩ | ⟨f, _, hs⟩
  · cases hdrop with
    | rejected heq _ hreject =>
        have hmem := heq ▸ List.mem_append_right _ List.mem_cons_self
        cases (hpass _ hmem).unique hreject
  · exact hskip hskip'
  · cases hs.symm.trans h
  · cases hs.symm.trans h

/-- A plan fails on a row exactly as the spec says it does. -/
theorem settle_eq_error_iff (hc : spec.Compiles values root) (hp : Plan.make spec values = .ok p)
    {f : Failure} : p.settle i row = .error f ↔ spec.Fails values i row f := by
  refine ⟨?_, settle_of_fails hp⟩
  intro h
  rcases settle_cases hc hp i row with ⟨_, hs⟩ | ⟨_, _, hs⟩ | ⟨r, _, _, hs⟩ | ⟨g, hg, hs⟩
  · cases hs.symm.trans h
  · cases hs.symm.trans h
  · cases hs.symm.trans h
  · cases hs.symm.trans h
    exact hg

/-! ## All rows -/

theorem settleAll_cons_eq_ok_iff {rows : List Row} {rs : List Record} :
    p.settleAll i (row :: rows) = .ok rs ↔
      ∃ settled more, p.settle i row = .ok settled ∧ p.settleAll (i + 1) rows = .ok more ∧
        settled.toList ++ more = rs := by
  simp only [settleAll, Except.bind_eq_ok_iff, Except.ok.injEq, exists_and_left]

theorem settleAll_cons_eq_error_iff {rows : List Row} {f : Failure} :
    p.settleAll i (row :: rows) = .error f ↔
      p.settle i row = .error f ∨
        ∃ settled, p.settle i row = .ok settled ∧ p.settleAll (i + 1) rows = .error f := by
  simp only [settleAll, Except.bind_eq_error_iff, reduceCtorEq, and_false, exists_false, or_false]

open scoped Classical in
/-- Where a run over rows succeeds, no row fails and the kept rows give the records in order. -/
theorem settleAll_eq_ok (hc : spec.Compiles values root) (hp : Plan.make spec values = .ok p)
    {rows : List Row} {rs : List Record} (h : p.settleAll i rows = .ok rs) :
    (∀ k row, rows[k]? = some row → ∀ f, ¬ spec.Fails values (i + k) row f) ∧
      List.Forall₂ (spec.Yields values) (rows.filter fun row => spec.Keeps values row) rs := by
  induction rows generalizing i rs with
  | nil =>
      cases h
      exact ⟨by simp, .nil⟩
  | cons row rows ih =>
      rcases settleAll_cons_eq_ok_iff.1 h with ⟨settled, more, hsettled, hmore, rfl⟩
      rcases ih hmore with ⟨hfine, hyields⟩
      constructor
      · intro k row' hget f hf
        cases k with
        | zero =>
            cases hget
            -- the first row was settled, so it does not fail
            have herror := settle_of_fails hp hf
            rw [Nat.add_zero, hsettled] at herror
            cases herror
        | succ k =>
            refine hfine k row' hget f ?_
            rwa [Nat.add_assoc, Nat.add_comm 1 k]
      · cases settled with
        | none =>
            have hnot := settle_eq_none hc hp hsettled
            simpa [hnot] using hyields
        | some r =>
            rcases settle_eq_some hc hp hsettled with ⟨hkeeps, hr⟩
            simpa [hkeeps] using List.Forall₂.cons hr hyields

/-- Where a run over rows fails, the first row that fails does so with the failure reported. -/
theorem settleAll_eq_error (hc : spec.Compiles values root) (hp : Plan.make spec values = .ok p)
    {rows : List Row} {f : Failure} (h : p.settleAll i rows = .error f) :
    ∃ k row, rows[k]? = some row ∧ spec.Fails values (i + k) row f ∧
      ∀ j row', j < k → rows[j]? = some row' → ∀ g, ¬ spec.Fails values (i + j) row' g := by
  induction rows generalizing i with
  | nil => cases h
  | cons row rows ih =>
      rcases settleAll_cons_eq_error_iff.1 h with hfail | ⟨settled, hsettled, hmore⟩
      · -- the first row fails, and no row comes before it
        refine ⟨0, row, rfl, (settle_eq_error_iff hc hp).1 hfail, ?_⟩
        intro j row' hj
        cases hj
      · rcases ih hmore with ⟨k, bad, hget, hfails, hfirst⟩
        refine ⟨k + 1, bad, hget, ?_, ?_⟩
        · rwa [Nat.add_comm k 1, ← Nat.add_assoc]
        · intro j row' hj hget' g hg
          cases j with
          | zero =>
              cases hget'
              rw [Nat.add_zero, ← settle_eq_error_iff hc hp, hsettled] at hg
              cases hg
          | succ j =>
              refine hfirst j row' (Nat.lt_of_succ_lt_succ hj) hget' g ?_
              rwa [Nat.add_assoc, Nat.add_comm 1 j]

end Plan

/-! ## A run -/

/-- Cutting adds no rows. -/
theorem Limits.mem_of_mem_cut {α : Type} {limits : Limits} {a : α} {all : List α}
    (h : a ∈ limits.cut all) : a ∈ all := by
  unfold cut at h
  cases heff : limits.effective with
  | some n =>
      rw [heff] at h
      exact List.mem_of_mem_take h
  | none =>
      rw [heff] at h
      exact h

namespace Spec

variable {spec : Spec} {values : Members} {root : String} {d : Document} {rows : List Row}

/-- An evaluation that succeeds has made a plan, found rows and settled all of them. -/
theorem evaluate_eq_ok {rs : List Record} (h : spec.evaluate d values = .ok rs) :
    ∃ p rows, Plan.make spec values = .ok p ∧ d.rows p.root = .ok rows ∧
      p.settleAll 0 rows = .ok rs := by
  rcases Except.bind_eq_ok_iff.1 h with ⟨p, hp, hrun⟩
  rcases Except.bind_eq_ok_iff.1 hrun with ⟨rows, hrows, hrs⟩
  exact ⟨p, rows, hp, hrows, hrs⟩

/-- With a plan and rows, the evaluation is the settling of the rows. -/
theorem evaluate_eq_settleAll {p : Plan} (hp : Plan.make spec values = .ok p)
    (hrows : d.rows p.root = .ok rows) : spec.evaluate d values = p.settleAll 0 rows := by
  rw [evaluate, hp]
  show p.run d = _
  rw [run, hrows]
  rfl

/-- Every record comes from one of the rows. -/
theorem exists_row_of_yields {rs : List Record} (h : List.Forall₂ (spec.Yields values) rows rs) :
    ∀ r ∈ rs, ∃ row ∈ rows, spec.Yields values row r := by
  induction h with
  | nil => simp
  | @cons row r rows rs hr _ ih =>
      refine List.forall_mem_cons.2 ⟨⟨row, List.mem_cons_self, hr⟩, ?_⟩
      intro r' hmem
      rcases ih r' hmem with ⟨row', hrow, hr'⟩
      exact ⟨row', List.mem_cons_of_mem row hrow, hr'⟩

/-- The columns of a record are those of the spec. -/
theorem names_of_yields {rs : List Record} (h : List.Forall₂ (spec.Yields values) rows rs) :
    ∀ r ∈ rs, r.toList.map Prod.fst = spec.columnNames := by
  intro r hmem
  rcases exists_row_of_yields h r hmem with ⟨row, _, hr⟩
  exact Cells.names hr

/-- Every record of a run comes from a row that the root selects. -/
theorem exists_row_of_evaluate {rs : List Record} (h : spec.evaluate d values = .ok rs)
    {r : Record} (hr : r ∈ rs) :
    ∃ root rows row, spec.Fills values spec.input.root root ∧ d.rows root = .ok rows ∧
      row ∈ rows ∧ spec.Yields values row r := by
  rcases evaluate_eq_ok h with ⟨p, rows, hp, hrows, hrun⟩
  have hc := compiles_of_make hp
  rcases exists_row_of_yields (settleAll_eq_ok hc hp hrun).2 r hr with ⟨row, hrow, hyields⟩
  exact ⟨p.root, rows, row, hc.root, hrows, List.mem_of_mem_filter hrow, hyields⟩

/-- The records of a run are those of the evaluation, cut to the limits. -/
theorem records_eq_ok_iff {input : String} {given : Members} {limits : Limits}
    {rs : List Record} :
    spec.records input given limits = .ok rs ↔
      spec.shapeFlaws = [] ∧ ∃ d all, Document.read spec.input.dialect input = .ok d ∧
        spec.evaluate d (spec.values given) = .ok all ∧ limits.cut all = rs := by
  unfold records
  by_cases hshape : spec.shapeFlaws = []
  · simp only [hshape, List.isEmpty_nil, if_true, true_and, Except.bind_eq_ok_iff, Except.ok.injEq]
    constructor
    · rintro ⟨d, hd, all, hall, hcut⟩
      exact ⟨d, all, hd, hall, hcut⟩
    · rintro ⟨d, all, hd, hall, hcut⟩
      exact ⟨d, hd, all, hall, hcut⟩
  · simp [hshape]

open scoped Classical in
/--
When the expressions can be read and the root selects rows, the run succeeds exactly when no row
fails. Its records are then those of the rows that pass all filters and are not skipped, in order,
each with the columns of the specification. Otherwise its failure is that of the first row that
fails, at the first step that cannot be taken there.

A failure of the kind `aborted` is no error that a run returns: a remainder that overflows breaks
the run off, and the row, the path and the expression of the failure only say where that was.
-/
theorem evaluate_gives_fates (hc : spec.Compiles values root) (hrows : d.rows root = .ok rows) :
    ((∃ rs, spec.evaluate d values = .ok rs) ↔
        ∀ i row, rows[i]? = some row → ∀ f, ¬ spec.Fails values i row f) ∧
      (∀ rs, spec.evaluate d values = .ok rs →
        List.Forall₂ (spec.Yields values) (rows.filter fun row => spec.Keeps values row) rs ∧
          ∀ r ∈ rs, r.toList.map Prod.fst = spec.columnNames) ∧
      ∀ f, spec.evaluate d values = .error f →
        ∃ i row, rows[i]? = some row ∧ spec.Fails values i row f ∧ spec.FailsAt values i f ∧
          ∀ j row', j < i → rows[j]? = some row' → ∀ g, ¬ spec.Fails values j row' g := by
  rcases Plan.exists_make hc with ⟨p, hp, rfl⟩
  rw [evaluate_eq_settleAll hp hrows]
  have hok : ∀ rs, p.settleAll 0 rows = .ok rs → _ := fun rs h => settleAll_eq_ok hc hp h
  have herror : ∀ f, p.settleAll 0 rows = .error f → _ := fun f h => settleAll_eq_error hc hp h
  simp only [Nat.zero_add] at hok herror
  refine ⟨⟨?_, ?_⟩, ?_, ?_⟩
  · rintro ⟨rs, hrs⟩
    exact (hok rs hrs).1
  · intro hfine
    cases hrun : p.settleAll 0 rows with
    | ok rs => exact ⟨rs, rfl⟩
    | error f =>
        rcases herror f hrun with ⟨i, row, hget, hfails, _⟩
        exact absurd hfails (hfine i row hget f)
  · intro rs hrs
    have hyields := (hok rs hrs).2
    exact ⟨hyields, names_of_yields hyields⟩
  · intro f hf
    rcases herror f hf with ⟨i, row, hget, hfails, hfirst⟩
    exact ⟨i, row, hget, hfails, hfails.place, hfirst⟩

/-- Names of the staff in a town, where a missing name is refused. -/
def townStaff : Spec where
  version := 1
  name := "staff"
  input := ⟨.json, "."⟩
  output := ⟨.json, []⟩
  mappings := [⟨"name", "name", .string, none⟩]
  filters := [⟨none, "town == \x7b\x7btown\x7d\x7d"⟩]
  onMissing := .error
  parameters := []

/-- A list of people; the second one lives elsewhere, and the third has no name. -/
def people : List Json :=
  [.object [("name", .string "Ana"), ("town", .string "Oslo")],
    .object [("town", .string "Bergen")],
    .object [("town", .string "Oslo")]]

/-- With the town given, every expression of the spec for a town's staff can be read. -/
theorem townStaff_compiles : townStaff.Compiles [("town", .string "Oslo")] "." where
  root := by cbv
  filters := by
    intro f hf
    rcases List.mem_singleton.1 hf with rfl
    refine ⟨"town == \"Oslo\"",
      .json (.compare .eq (.field .identity "town") (.literal (.string "Oslo"))), ?_⟩
    exact ⟨by cbv, by cbv⟩
  mappings := by
    intro m hm
    rcases List.mem_singleton.1 hm with rfl
    exact ⟨"name", .json (.field .identity "name"), by cbv, by cbv⟩

theorem evaluate_gives_fates_of_townStaff :
    townStaff.Compiles [("town", .string "Oslo")] "." ∧
      (Document.json (.array people)).rows "." = .ok (people.map .json) ∧
      ∀ f, townStaff.evaluate (.json (.array people)) [("town", .string "Oslo")] = .error f →
        ∃ i row, (people.map Row.json)[i]? = some row ∧
          townStaff.Fails [("town", .string "Oslo")] i row f ∧
          townStaff.FailsAt [("town", .string "Oslo")] i f ∧
          ∀ j row', j < i → (people.map Row.json)[j]? = some row' →
            ∀ g, ¬ townStaff.Fails [("town", .string "Oslo")] j row' g := by
  have hrows : (Document.json (.array people)).rows "." = .ok (people.map .json) := by cbv
  exact ⟨townStaff_compiles, hrows, (evaluate_gives_fates townStaff_compiles hrows).2.2⟩

end Spec
end Gleaner
