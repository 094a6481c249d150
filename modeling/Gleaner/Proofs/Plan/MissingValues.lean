import Gleaner.Proofs.Plan.Pipeline
/-!
# The policies for missing values

The three policies are compared as runs of one specification. Under the null policy a null in a
record is the trace of a missing value, as long as no default is null itself:

* `Expression.outcome_ne_null`: an expression finds nothing rather than null;
* `Plan.settle_complete`, `Plan.settle_skipRow` and `Plan.settle_error`: what the other policies
  make of a row that has a record under the null policy;
* `Spec.evaluate_policies`: the skipping run leaves out the records with a null, and the strict run
  fails at the first of them.
-/

namespace Gleaner

open Plan

/-- Whether no column of a record is null. -/
def Record.isComplete (r : Record) : Bool :=
  r.values.all fun v => v.kind != .null

/-- A record is complete if none of its cells is null. -/
theorem Record.isComplete_iff {r : Record} :
    r.isComplete = true ↔ ∀ cell ∈ r.toList, cell.2 ≠ .null := by
  have hkind : ∀ v : Json, v.kind = .null ↔ v = .null := by
    intro v
    cases v <;> simp [Json.kind]
  simp [Record.isComplete, Record.values, Record.toList, hkind]

/-! ## Nothing is never null -/

/-- Results are never folded into a null: nulls count as nothing. -/
theorem Outcome.ofResults_ne_null {vs : List Json} {v : Json}
    (h : Outcome.ofResults vs = some v) : v ≠ .null := by
  unfold Outcome.ofResults at h
  split at h
  · cases h
  · cases h
  · rename_i w hw
    cases h
    exact hw
  · cases h
    simp

/-- An expression finds nothing where it finds null. -/
theorem Expression.outcome_ne_null {x : Expression} {row : Row} {v : Json}
    (h : x.outcome row = .ok (some v)) : v ≠ .null := by
  unfold Expression.outcome at h
  split at h
  · rw [Except.mapError_eq_ok_iff, Except.map_eq_ok_iff] at h
    rcases h with ⟨vs, _, hvs⟩
    exact Outcome.ofResults_ne_null hvs
  · rw [Except.mapError_eq_ok_iff, Except.map_eq_ok_iff] at h
    -- a path finds nodes, a text, a number or a truth value, of which none is null
    rcases h with ⟨value, _, hvalue⟩
    cases value with
    | nodes ns => exact Outcome.ofResults_ne_null hvalue
    | text s =>
        cases hvalue
        simp
    | number n =>
        rcases Option.map_eq_some_iff.1 hvalue with ⟨m, _, rfl⟩
        simp
    | bool b =>
        cases hvalue
        simp
  · exact Outcome.ofResults_ne_null (Except.ok.inj h)
  · cases h

theorem ValueType.asNumber?_eq_some {w v : Json} (h : ValueType.asNumber? w = some v) :
    ∃ n, v = .number n := by
  cases w with
  | number n => exact ⟨n, (Option.some.inj h).symm⟩
  | string s =>
      rcases Option.map_eq_some_iff.1 h with ⟨n, _, rfl⟩
      exact ⟨n, rfl⟩
  | _ => cases h

theorem ValueType.asBoolean?_eq_some {w v : Json} (h : ValueType.asBoolean? w = some v) :
    ∃ b, v = .bool b := by
  cases w with
  | bool b => exact ⟨b, (Option.some.inj h).symm⟩
  | number n =>
      -- one and zero are the numbers that stand for truth values
      dsimp only [ValueType.asBoolean?] at h
      by_cases hone : n.toFinite.compare (Binary64.Finite.ofInt 1) = .eq
      · rw [if_pos hone] at h
        exact ⟨true, (Option.some.inj h).symm⟩
      · rw [if_neg hone] at h
        by_cases hzero : n.toFinite.isZero = true
        · rw [if_pos hzero] at h
          exact ⟨false, (Option.some.inj h).symm⟩
        · rw [if_neg hzero] at h
          cases h
  | string s =>
      dsimp only [ValueType.asBoolean?] at h
      rcases Option.map_eq_some_iff.1 h with ⟨b, _, rfl⟩
      exact ⟨b, rfl⟩
  | _ => cases h

/-- Coercion makes no null of a value. -/
theorem ValueType.coerce_ne_null {type : ValueType} {o : Outcome} {v : Json}
    (ho : ∀ w, o = some w → w ≠ .null) (h : type.coerce o = some v) : v ≠ .null := by
  cases type with
  | string => exact ho v h
  | date => exact ho v h
  | any => exact ho v h
  | number =>
      rcases Option.bind_eq_some_iff.1 h with ⟨w, _, hw⟩
      rcases asNumber?_eq_some hw with ⟨n, rfl⟩
      simp
  | boolean =>
      rcases Option.bind_eq_some_iff.1 h with ⟨w, _, hw⟩
      rcases asBoolean?_eq_some hw with ⟨b, rfl⟩
      simp

namespace Spec

variable {spec : Spec} {values : Members} {row : Row} {q : OnMissing}

/-- A mapping without a null as default finds no null. -/
theorem Finds.ne_null {m : Mapping} (hdefault : m.default ≠ some .null) {v : Json}
    (h : spec.Finds values row m (some v)) : v ≠ .null := by
  rcases h with ⟨text, x, found, _, hfound, hv⟩
  cases hcoerce : m.type.coerce found with
  | none =>
      rw [hcoerce] at hv
      rintro rfl
      exact hdefault hv
  | some w =>
      rw [hcoerce] at hv
      cases hv
      refine ValueType.coerce_ne_null ?_ hcoerce
      rintro w rfl
      exact Expression.outcome_ne_null hfound

/-! ## One specification under several policies -/

/-- The specification with another policy for missing values. -/
def withPolicy (spec : Spec) (q : OnMissing) : Spec :=
  { spec with onMissing := q }

theorem reads_withPolicy {expr text : String} {x : Expression} :
    (spec.withPolicy q).Reads values expr text x ↔ spec.Reads values expr text x :=
  ⟨fun h => ⟨h.fills, h.read⟩, fun h => ⟨h.fills, h.read⟩⟩

theorem decides_withPolicy {f : Filter} {b : Bool} :
    (spec.withPolicy q).Decides values row f b ↔ spec.Decides values row f b := by
  simp only [Decides, reads_withPolicy]

theorem finds_withPolicy {m : Mapping} {o : Outcome} :
    (spec.withPolicy q).Finds values row m o ↔ spec.Finds values row m o := by
  simp only [Finds, reads_withPolicy]

theorem passes_withPolicy : (spec.withPolicy q).Passes values row ↔ spec.Passes values row := by
  simp only [Passes, decides_withPolicy]
  rfl

/-- Whether a row is dropped does not depend on the policy. -/
theorem drops_withPolicy (h : spec.Drops values row) : (spec.withPolicy q).Drops values row := by
  cases h with
  | rejected heq hbefore hf =>
      refine .rejected heq ?_ (decides_withPolicy.2 hf)
      exact fun b hb => decides_withPolicy.2 (hbefore b hb)

theorem Compiles.withPolicy {root : String} (h : spec.Compiles values root) :
    (spec.withPolicy q).Compiles values root where
  root := h.root
  filters f hf := by simpa only [reads_withPolicy] using h.filters f hf
  mappings m hm := by simpa only [reads_withPolicy] using h.mappings m hm

theorem cell_withPolicy_of_finds {m : Mapping} {v : Json} (h : spec.Finds values row m (some v)) :
    (spec.withPolicy q).Cell values row m v :=
  .found (finds_withPolicy.2 h)

/-- Under the null policy a null is the trace of a missing value. -/
theorem finds_of_cell {m : Mapping} {v : Json} (hdefault : m.default ≠ some .null)
    (h : (spec.withPolicy .null).Cell values row m v) :
    v ≠ .null ∧ spec.Finds values row m (some v) ∨ v = .null ∧ spec.Finds values row m none := by
  cases h with
  | found hfound =>
      rw [finds_withPolicy] at hfound
      exact .inl ⟨hfound.ne_null hdefault, hfound⟩
  | null hnone _ =>
      rw [finds_withPolicy] at hnone
      exact .inr ⟨rfl, hnone⟩

/-- Cells without a null are the same under every policy. -/
theorem cells_of_complete {ms : List Mapping} {cells : List (String × Json)}
    (hdefaults : ∀ m ∈ ms, m.default ≠ some .null)
    (h : (spec.withPolicy .null).Cells values row ms cells)
    (hcomplete : ∀ cell ∈ cells, cell.2 ≠ .null) :
    (spec.withPolicy q).Cells values row ms cells := by
  induction h with
  | nil => exact .nil
  | @cons m cell ms cells hcell _ ih =>
      have hrest := ih (fun b hb => hdefaults b (List.mem_cons_of_mem m hb))
        fun c hc => hcomplete c (List.mem_cons_of_mem cell hc)
      rcases finds_of_cell (hdefaults m List.mem_cons_self) hcell.2 with ⟨_, hfound⟩ | ⟨hnull, _⟩
      · exact .cons ⟨hcell.1, cell_withPolicy_of_finds hfound⟩ hrest
      · exact absurd hnull (hcomplete cell List.mem_cons_self)

/-- Among cells with a null, the first one's mapping finds nothing, those before it something. -/
theorem exists_first_null {ms : List Mapping} {cells : List (String × Json)}
    (hdefaults : ∀ m ∈ ms, m.default ≠ some .null)
    (h : (spec.withPolicy .null).Cells values row ms cells)
    (hnull : ¬ ∀ cell ∈ cells, cell.2 ≠ .null) :
    ∃ before m after, ms = before ++ m :: after ∧
      (∀ b ∈ before, ∃ v, (spec.withPolicy q).Cell values row b v) ∧
        spec.Finds values row m none ∧ cells[before.length]? = some (m.name, .null) ∧
          ∀ cell ∈ cells.take before.length, cell.2 ≠ .null := by
  induction h with
  | nil => exact absurd (by simp) hnull
  | @cons m cell ms cells hcell _ ih =>
      have hcases := finds_of_cell (hdefaults m List.mem_cons_self) hcell.2
      rcases hcases with ⟨hne, hfound⟩ | ⟨heq, hnone⟩
      · -- the first cell has a value, so the null is in one of the others
        have hrest : ¬ ∀ c ∈ cells, c.2 ≠ .null := by
          intro hall
          refine hnull fun c hc => ?_
          rcases List.mem_cons.1 hc with rfl | htail
          · exact hne
          · exact hall c htail
        rcases ih (fun b hb => hdefaults b (List.mem_cons_of_mem m hb)) hrest with
          ⟨before, m', after, rfl, hbefore, hnone, hget, htake⟩
        refine ⟨m :: before, m', after, rfl, ?_, hnone, hget, ?_⟩
        · intro b hb
          rcases List.mem_cons.1 hb with rfl | htail
          · exact ⟨_, cell_withPolicy_of_finds hfound⟩
          · exact hbefore b htail
        · intro c hc
          rcases List.mem_cons.1 hc with rfl | htail
          · exact hne
          · exact htake c htail
      · refine ⟨[], m, ms, rfl, by simp, hnone, ?_, by simp⟩
        show some cell = some (m.name, Json.null)
        rw [← hcell.1, ← heq]

/-- The first null of a record stands in the column of mapping `j`. -/
structure FirstNull (spec : Spec) (r : Record) (j : Nat) (m : Mapping) : Prop where
  mapping : spec.mappings[j]? = some m
  cell : r.toList[j]? = some (m.name, .null)
  before : ∀ cell ∈ r.toList.take j, cell.2 ≠ .null

end Spec

/-! ## One row under several policies -/

namespace Plan

section Policies

variable {spec : Spec} {values : Members} {row : Row} {root : String} {lenient p : Plan} {i : Nat}
  {q : OnMissing} {r : Record}

/-- A row without a record under the lenient policy is dropped under every policy. -/
theorem settle_dropped (hc : spec.Compiles values root)
    (hlenient : Plan.make (spec.withPolicy .null) values = .ok lenient)
    (hp : Plan.make (spec.withPolicy q) values = .ok p) (h : lenient.settle i row = .ok none) :
    ¬ spec.Passes values row ∧ p.settle i row = .ok none := by
  rcases settle_cases (hc.withPolicy (q := .null)) hlenient i row with
    ⟨hdrop, _⟩ | ⟨_, hskip, _⟩ | ⟨r, _, _, hs⟩ | ⟨f, _, hs⟩
  · have hdrop' : ((spec.withPolicy .null).withPolicy q).Drops values row :=
      Spec.drops_withPolicy hdrop
    refine ⟨?_, settle_of_drops hp hdrop'⟩
    intro hpass
    refine settle_eq_none hc.withPolicy hlenient h ⟨Spec.passes_withPolicy.2 hpass, ?_⟩
    rintro ⟨_, _, _, hpolicy⟩
    cases hpolicy
  · cases hskip with
    | missing _ _ _ hpolicy => cases hpolicy
  · cases hs.symm.trans h
  · cases hs.symm.trans h

theorem passes_of_lenient (hc : spec.Compiles values root)
    (hlenient : Plan.make (spec.withPolicy .null) values = .ok lenient)
    (h : lenient.settle i row = .ok (some r)) :
    spec.Passes values row ∧ (spec.withPolicy .null).Yields values row r := by
  rcases settle_eq_some hc.withPolicy hlenient h with ⟨⟨hpass, _⟩, hyields⟩
  exact ⟨Spec.passes_withPolicy.1 hpass, hyields⟩

/-- A row with a complete record has it under every policy. -/
theorem settle_complete (hc : spec.Compiles values root)
    (hdefaults : ∀ m ∈ spec.mappings, m.default ≠ some .null)
    (hlenient : Plan.make (spec.withPolicy .null) values = .ok lenient)
    (hp : Plan.make (spec.withPolicy q) values = .ok p)
    (h : lenient.settle i row = .ok (some r)) (hr : r.isComplete = true) :
    p.settle i row = .ok (some r) := by
  rcases passes_of_lenient hc hlenient h with ⟨hpass, hyields⟩
  have hcells := Spec.cells_of_complete (q := q) hdefaults hyields (Record.isComplete_iff.1 hr)
  exact settle_of_yields hp (Spec.passes_withPolicy.2 hpass) hcells

/-- A row whose record has a null is skipped where rows are skipped. -/
theorem settle_skipRow (hc : spec.Compiles values root)
    (hdefaults : ∀ m ∈ spec.mappings, m.default ≠ some .null)
    (hlenient : Plan.make (spec.withPolicy .null) values = .ok lenient)
    (hp : Plan.make (spec.withPolicy .skipRow) values = .ok p)
    (h : lenient.settle i row = .ok (some r)) (hr : ¬ r.isComplete = true) :
    p.settle i row = .ok none := by
  rcases passes_of_lenient hc hlenient h with ⟨hpass, hyields⟩
  rw [Record.isComplete_iff] at hr
  rcases Spec.exists_first_null (q := .skipRow) hdefaults hyields hr with
    ⟨before, m, after, heq, hbefore, hnone, _, _⟩
  have hskips : (spec.withPolicy .skipRow).Skips values row :=
    .missing heq hbefore (Spec.finds_withPolicy.2 hnone) rfl
  exact settle_of_skips hp (Spec.passes_withPolicy.2 hpass) hskips

/-- A row whose record has a null fails at the first one where values are required. -/
theorem settle_error (hc : spec.Compiles values root)
    (hdefaults : ∀ m ∈ spec.mappings, m.default ≠ some .null)
    (hlenient : Plan.make (spec.withPolicy .null) values = .ok lenient)
    (hp : Plan.make (spec.withPolicy .error) values = .ok p)
    (h : lenient.settle i row = .ok (some r)) (hr : ¬ r.isComplete = true) :
    ∃ j m text, spec.FirstNull r j m ∧ spec.Fills values m.expr text ∧
      p.settle i row = .error (Spec.missingFailure i j m text) := by
  rcases passes_of_lenient hc hlenient h with ⟨hpass, hyields⟩
  rw [Record.isComplete_iff] at hr
  rcases Spec.exists_first_null (q := .error) hdefaults hyields hr with
    ⟨before, m, after, heq, hbefore, hnone, hget, htake⟩
  have hmem : m ∈ spec.mappings := heq ▸ List.mem_append_right _ List.mem_cons_self
  rcases hc.mappings m hmem with ⟨text, x, hread⟩
  have hfails : (spec.withPolicy .error).Fails values i row
      (Spec.missingFailure i before.length m text) :=
    .missing (Spec.passes_withPolicy.2 hpass) heq hbefore hread.fills
      (Spec.finds_withPolicy.2 hnone) rfl
  have hmapping : spec.mappings[before.length]? = some m := by simp [heq]
  exact ⟨before.length, m, text, ⟨hmapping, hget, htake⟩, hread.fills, settle_of_fails hp hfails⟩

/-! ## All rows under several policies -/

variable {rows : List Row} {rs : List Record}

/-- The skipping run leaves out the records with a null. -/
theorem settleAll_skipRow (hc : spec.Compiles values root)
    (hdefaults : ∀ m ∈ spec.mappings, m.default ≠ some .null)
    (hlenient : Plan.make (spec.withPolicy .null) values = .ok lenient)
    (hp : Plan.make (spec.withPolicy .skipRow) values = .ok p)
    (h : lenient.settleAll i rows = .ok rs) :
    p.settleAll i rows = .ok (rs.filter Record.isComplete) := by
  induction rows generalizing i rs with
  | nil =>
      cases h
      rfl
  | cons row rows ih =>
      rcases settleAll_cons_eq_ok_iff.1 h with ⟨settled, more, hsettled, hmore, rfl⟩
      cases settled with
      | none =>
          rw [settleAll, (settle_dropped hc hlenient hp hsettled).2, ih hmore]
          rfl
      | some r =>
          by_cases hr : r.isComplete = true
          · rw [settleAll, settle_complete hc hdefaults hlenient hp hsettled hr, ih hmore]
            simp [bind, Except.bind, hr]
          · rw [settleAll, settle_skipRow hc hdefaults hlenient hp hsettled hr, ih hmore]
            simp [bind, Except.bind, hr]

/-- The strict run has the same records where none of them has a null. -/
theorem settleAll_error_of_complete (hc : spec.Compiles values root)
    (hdefaults : ∀ m ∈ spec.mappings, m.default ≠ some .null)
    (hlenient : Plan.make (spec.withPolicy .null) values = .ok lenient)
    (hp : Plan.make (spec.withPolicy .error) values = .ok p)
    (h : lenient.settleAll i rows = .ok rs) (hall : ∀ r ∈ rs, r.isComplete = true) :
    p.settleAll i rows = .ok rs := by
  induction rows generalizing i rs with
  | nil =>
      cases h
      rfl
  | cons row rows ih =>
      rcases settleAll_cons_eq_ok_iff.1 h with ⟨settled, more, hsettled, hmore, rfl⟩
      have hsame : p.settle i row = .ok settled := by
        cases settled with
        | none => exact (settle_dropped hc hlenient hp hsettled).2
        | some r =>
            have hr : r.isComplete = true := hall r (by simp)
            exact settle_complete hc hdefaults hlenient hp hsettled hr
      rw [settleAll, hsame, ih hmore fun r hr => hall r (List.mem_append_right _ hr)]
      rfl

open scoped Classical in
/-- The strict run fails at the row of the first record with a null. -/
theorem settleAll_error_of_null (hc : spec.Compiles values root)
    (hdefaults : ∀ m ∈ spec.mappings, m.default ≠ some .null)
    (hlenient : Plan.make (spec.withPolicy .null) values = .ok lenient)
    (hp : Plan.make (spec.withPolicy .error) values = .ok p)
    (h : lenient.settleAll i rows = .ok rs) {k : Nat} (hget : rs[k]? = some r)
    (hr : ¬ r.isComplete = true) (hfirst : ∀ s ∈ rs.take k, s.isComplete = true) :
    ∃ n row j m text, rows[n]? = some row ∧ spec.Passes values row ∧
      ((rows.take n).filter fun row => spec.Passes values row).length = k ∧
        spec.FirstNull r j m ∧ spec.Fills values m.expr text ∧
          p.settleAll i rows = .error (Spec.missingFailure (i + n) j m text) := by
  induction rows generalizing i rs k with
  | nil =>
      cases h
      cases hget
  | cons row rows ih =>
      rcases settleAll_cons_eq_ok_iff.1 h with ⟨settled, more, hsettled, hmore, rfl⟩
      cases settled with
      | none =>
          rcases settle_dropped hc hlenient hp hsettled with ⟨hnot, hsame⟩
          rcases ih hmore hget hfirst with
            ⟨n, row', j, m, text, hrow, hpass, hlen, hnull, hfills, hrun⟩
          refine ⟨n + 1, row', j, m, text, hrow, hpass, ?_, hnull, hfills, ?_⟩
          · simpa [hnot] using hlen
          · rw [settleAll, hsame, hrun, Nat.add_assoc, Nat.add_comm 1 n]
            rfl
      | some s =>
          have hpass := (passes_of_lenient hc hlenient hsettled).1
          cases k with
          | zero =>
              -- the record with a null is that of the row at hand
              cases hget
              rcases settle_error hc hdefaults hlenient hp hsettled hr with
                ⟨j, m, text, hnull, hfills, hfail⟩
              refine ⟨0, row, j, m, text, rfl, hpass, rfl, hnull, hfills, ?_⟩
              rw [settleAll, hfail]
              rfl
          | succ k =>
              have hs : s.isComplete = true := hfirst s (by simp)
              have hsame := settle_complete hc hdefaults hlenient hp hsettled hs
              have hbefore : ∀ t ∈ more.take k, t.isComplete = true := by
                intro t ht
                exact hfirst t (by simp [ht])
              rcases ih hmore hget hbefore with
                ⟨n, row', j, m, text, hrow, hpass', hlen, hnull, hfills, hrun⟩
              refine ⟨n + 1, row', j, m, text, hrow, hpass', by simpa [hpass] using hlen, hnull,
                hfills, ?_⟩
              rw [settleAll, hsame, hrun, Nat.add_assoc, Nat.add_comm 1 n]
              rfl

end Policies
end Plan

/-! ## A run under several policies -/

namespace Spec

variable {spec : Spec} {values : Members} {d : Document} {rs : List Record}

open scoped Classical in
/--
A run that writes null for missing values tells what the other policies do, unless a default is null
itself. The skipping run has the records without a null. The strict run has all records if none has
a null, and otherwise fails at the first null of the first record that has one: the failure names
the position of that record's row among all selected rows.
-/
theorem evaluate_policies (hdefaults : ∀ m ∈ spec.mappings, m.default ≠ some .null)
    (h : (spec.withPolicy .null).evaluate d values = .ok rs) :
    (spec.withPolicy .skipRow).evaluate d values = .ok (rs.filter Record.isComplete) ∧
      ((∀ r ∈ rs, r.isComplete = true) → (spec.withPolicy .error).evaluate d values = .ok rs) ∧
      ((¬ ∀ r ∈ rs, r.isComplete = true) →
        ∃ before r after root rows i row j m text,
          (rs = before ++ r :: after ∧ (∀ s ∈ before, s.isComplete = true) ∧
            ¬ r.isComplete = true ∧ spec.FirstNull r j m) ∧
          (spec.Fills values spec.input.root root ∧ d.rows root = .ok rows ∧
            rows[i]? = some row ∧ spec.Passes values row ∧
            ((rows.take i).filter fun row => spec.Passes values row).length = before.length) ∧
          spec.Fills values m.expr text ∧
          (spec.withPolicy .error).evaluate d values = .error (missingFailure i j m text)) := by
  rcases evaluate_eq_ok h with ⟨lenient, rows, hlenient, hrows, hrun⟩
  -- the policy that the specification came with makes no difference to what can be read
  have hc : spec.Compiles values lenient.root :=
    (compiles_of_make hlenient).withPolicy (q := spec.onMissing)
  rcases Plan.exists_make (hc.withPolicy (q := .skipRow)) with ⟨skipping, hskipping, hroot⟩
  rcases Plan.exists_make (hc.withPolicy (q := .error)) with ⟨strict, hstrict, hroot'⟩
  rw [evaluate_eq_settleAll hskipping (hroot ▸ hrows),
    evaluate_eq_settleAll hstrict (hroot' ▸ hrows)]
  refine ⟨settleAll_skipRow hc hdefaults hlenient hskipping hrun,
    settleAll_error_of_complete hc hdefaults hlenient hstrict hrun, ?_⟩
  intro hnull
  rcases List.exists_first_not hnull with ⟨before, r, after, heq, hbefore, hr⟩
  have hget : rs[before.length]? = some r := by simp [heq]
  have hfirst : ∀ s ∈ rs.take before.length, s.isComplete = true := by simpa [heq] using hbefore
  rcases settleAll_error_of_null hc hdefaults hlenient hstrict hrun hget hr hfirst with
    ⟨i, row, j, m, text, hrow, hpass, hlen, hgap, hfills, hfail⟩
  rw [Nat.zero_add] at hfail
  exact ⟨before, r, after, lenient.root, rows, i, row, j, m, text, ⟨heq, hbefore, hr, hgap⟩,
    ⟨hc.root, hrows, hrow, hpass, hlen⟩, hfills, hfail⟩

def namedAges : Spec where
  version := 1
  name := "ages"
  input := ⟨.json, "."⟩
  output := ⟨.json, []⟩
  mappings := [⟨"name", "name", .string, none⟩, ⟨"age", "age", .string, none⟩]
  filters := [⟨none, "name"⟩]
  onMissing := .null
  parameters := []

/-- Three people, of whom the first has no name and the second no age. -/
def threePeople : Document :=
  .json (.array [.object [("age", .string "31")], .object [("name", .string "Bo")],
    .object [("name", .string "Cy"), ("age", .string "19")]])

/-- Three people, one of whom is kept with a null or skipped, by the policy. -/
theorem evaluate_policies_of_namedAges :
    (∀ m ∈ namedAges.mappings, m.default ≠ some .null) ∧
      (namedAges.withPolicy .null).evaluate threePeople [] =
        .ok [⟨[("name", .string "Bo"), ("age", .null)]⟩,
          ⟨[("name", .string "Cy"), ("age", .string "19")]⟩] ∧
      (namedAges.withPolicy .skipRow).evaluate threePeople [] =
        .ok [⟨[("name", .string "Cy"), ("age", .string "19")]⟩] := by
  have hdefaults : ∀ m ∈ namedAges.mappings, m.default ≠ some .null := by
    intro m hm
    rcases List.mem_cons.1 hm with rfl | hm
    · simp
    · rcases List.mem_singleton.1 hm with rfl
      simp
  have hrun : (namedAges.withPolicy .null).evaluate threePeople [] =
      .ok [⟨[("name", .string "Bo"), ("age", .null)]⟩,
        ⟨[("name", .string "Cy"), ("age", .string "19")]⟩] := by cbv
  exact ⟨hdefaults, hrun, (evaluate_policies hdefaults hrun).1⟩

end Spec
end Gleaner
