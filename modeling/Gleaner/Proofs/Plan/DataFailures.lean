import Gleaner.Proofs.Output.Agreement
import Gleaner.Proofs.Plan.Pipeline
import Gleaner.Proofs.Spec.Shape
import Gleaner.Proofs.Template.Segments
/-!
# Failures of checked specifications

A specification without flaws and without holes has nothing left that could be wrong with it, so a
run can fail only because of the data:

* `Template.fill_of_no_holes`: what has no holes stays as it was checked;
* `Document.selected_eq_error` and `Expression.outcome_eq_error`: a root that was checked has only
  errors of evaluation, and so has an expression that was read;
* `Spec.DataFailure` lists the failures that the data can cause, whatever the variables are;
* `Spec.transform_fails_on_data`: every failure of a run is one of them.
-/

namespace Gleaner

open Plan

/-! ## Nothing to fill -/

namespace Template

/-- A text without holes is filled to itself, whatever the variables. -/
theorem fill_of_no_holes {b : Bindings} {s : String} (h : hasHoles s = false) (dialect : Dialect) :
    fill dialect b s = .ok s := by
  have hchars : pieces s.toList = s.toList.map .char := by
    apply pieces_of_no_holes
    intro name hmem
    have hany : hasHoles s = true := List.any_eq_true.2 ⟨_, hmem, rfl⟩
    rw [h] at hany
    cases hany
  rw [fill_eq_fillPieces, hchars, fillPieces_chars]
  exact congrArg Except.ok String.ofList_toList

end Template

/-! ## Errors of evaluation -/

/-- The errors that an expression has on rows of its own kind of document. -/
inductive Expression.EvalError : Expression → Row → Expression.Error → Prop where
  | query {q : Query} {v : Json} {e : Query.Error} :
      q.eval v = .error e → EvalError (.json q) (.json v) (.query e)
  | path {s : XPath.Selection} {d : Xml.Document} {n : Nat} {e : XPath.Error} :
      s.value d n = .error e → EvalError (.xml s) (.xml d n) (.xpath e)

/-- The errors that a root has on a document although it can be read. -/
inductive Document.RootError : Document → String → Expression.Error → Prop where
  | query {root : String} {q : Query} {v : Json} {e : Query.Error} :
      Query.read root = .ok q → q.eval v = .error e → RootError (.json v) root (.query e)
  | path {root : String} {s : XPath.Selection} {d : Xml.Document} {e : XPath.Error} :
      XPath.Selection.read root = .ok s → s.nodes d = .error e → RootError (.xml d) root (.xpath e)

namespace Expression

variable {x : Expression} {row : Row} {e : Error}

theorem dialect_of_read {d : Dialect} {s : String} (h : read d s = .ok x) : x.dialect = d := by
  cases d <;> simp only [read, Except.mapError_eq_ok_iff, Except.map_eq_ok_iff] at h <;>
    rcases h with ⟨_, _, rfl⟩ <;> rfl

/-- An error of an expression on a row is one of the errors of evaluation. -/
theorem outcome_eq_error (hdialect : x.dialect = row.dialect) (h : x.outcome row = .error e) :
    x.EvalError row e := by
  cases x with
  | json q =>
      cases row <;> try cases hdialect
      rcases Except.mapError_eq_error_iff.1 h with ⟨e, herror, rfl⟩
      exact .query (Except.map_eq_error_iff.1 herror)
  | xml s =>
      cases row <;> try cases hdialect
      rcases Except.mapError_eq_error_iff.1 h with ⟨e, herror, rfl⟩
      exact .path (Except.map_eq_error_iff.1 herror)
  | html y =>
      cases row <;> try cases hdialect
      cases h

/-- An expression fails as a filter exactly where it fails as a column. -/
theorem passes_eq_error_iff : x.passes row = .error e ↔ x.outcome row = .error e := by
  cases x <;> cases row <;>
    simp [passes, outcome, Except.mapError_eq_error_iff, Except.map_eq_error_iff]

end Expression

namespace Document

def dialect : Document → Dialect
  | .json _ => .json
  | .xml _ => .xml
  | .html _ => .html

variable {d : Document} {root : String}

/-- Reading gives a document of the dialect asked for, or the failure of invalid input. -/
theorem read_cases (kind : Dialect) (input : String) :
    (∃ d, read kind input = .ok d ∧ d.dialect = kind) ∨
      ∃ message, read kind input = .error (invalidInput message) := by
  cases kind with
  | json =>
      cases hread : Json.read? input with
      | some v => exact .inl ⟨.json v, by simp [read, hread], rfl⟩
      | none => exact .inr ⟨_, by simp [read, hread]; rfl⟩
  | xml =>
      cases hread : Xml.Document.read? input with
      | some x => exact .inl ⟨.xml x, by simp [read, hread], rfl⟩
      | none => exact .inr ⟨_, by simp [read, hread]; rfl⟩
  | html => exact .inl ⟨.html (.read input), rfl, rfl⟩

/-- The rows of a document are of its dialect. -/
theorem dialect_of_rows {rows : List Row} (h : d.rows root = .ok rows) :
    ∀ row ∈ rows, row.dialect = d.dialect := by
  -- every kind of document makes its rows with one constructor
  have hmap : ∀ {α : Type} {l : List α} {mk : α → Row}, (∀ a, (mk a).dialect = d.dialect) →
      l.map mk = rows → ∀ row ∈ rows, row.dialect = d.dialect := by
    rintro α l mk hmk rfl row hrow
    rcases List.mem_map.1 hrow with ⟨a, _, rfl⟩
    exact hmk a
  rw [Document.rows, Except.mapError_eq_ok_iff] at h
  cases d with
  | json v =>
      rcases Except.bind_eq_ok_iff.1 h with ⟨q, _, h⟩
      rcases Except.bind_eq_ok_iff.1 h with ⟨vs, _, h⟩
      exact hmap (fun _ => rfl) (Except.ok.inj h)
  | xml x =>
      rcases Except.bind_eq_ok_iff.1 h with ⟨s, _, h⟩
      rcases Except.bind_eq_ok_iff.1 h with ⟨ns, _, h⟩
      exact hmap (fun _ => rfl) (Except.ok.inj h)
  | html x =>
      rcases Except.bind_eq_ok_iff.1 h with ⟨s, _, h⟩
      exact hmap (fun _ => rfl) (Except.ok.inj h)

/-- A readable root fails on a document with one of the errors that the data can cause. -/
theorem selected_eq_error {e : Expression.Error}
    (hroot : Expression.checkRoot d.dialect root = .ok ()) (h : d.selected root = .error e) :
    d.RootError root e := by
  cases d with
  | json v =>
      rcases Except.map_eq_ok_iff.1 hroot with ⟨x, hx, _⟩
      rcases Except.map_eq_ok_iff.1 (Except.mapError_eq_ok_iff.1 hx) with ⟨q, hq, _⟩
      rw [selected, hq] at h
      -- the root is read, so only its evaluation is left to fail
      rcases Except.bind_eq_error_iff.1 h with hread | ⟨q', hread, h⟩
      · cases hread
      · cases hread
        rcases Except.bind_eq_error_iff.1 h with heval | ⟨vs, _, h⟩
        · rcases Except.mapError_eq_error_iff.1 heval with ⟨e, herror, rfl⟩
          exact .query hq herror
        · cases h
  | xml x =>
      rcases Except.map_eq_ok_iff.1 hroot with ⟨y, hy, _⟩
      rcases Except.map_eq_ok_iff.1 (Except.mapError_eq_ok_iff.1 hy) with ⟨s, hs, _⟩
      rw [selected, hs] at h
      rcases Except.bind_eq_error_iff.1 h with hread | ⟨s', hread, h⟩
      · cases hread
      · cases hread
        rcases Except.bind_eq_error_iff.1 h with hnodes | ⟨ns, _, h⟩
        · rcases Except.mapError_eq_error_iff.1 hnodes with ⟨e, herror, rfl⟩
          exact .path hs herror
        · cases h
  | html x =>
      rcases Except.map_eq_ok_iff.1 (Except.mapError_eq_ok_iff.1 hroot) with ⟨s, hs, _⟩
      rw [selected, hs] at h
      cases h

end Document

/-! ## The failures that the data can cause -/

namespace Spec

/-- No expression of the specification refers to a variable. -/
structure NoHoles (spec : Spec) : Prop where
  root : Template.hasHoles spec.input.root = false
  filters : ∀ f ∈ spec.filters, Template.hasHoles f.expr = false
  mappings : ∀ m ∈ spec.mappings, Template.hasHoles m.expr = false

/-- The failures of a row: an expression that was read has an error, or a value is missing. -/
inductive RowFailure (spec : Spec) (i : Nat) (row : Row) : Failure → Prop where
  | filter {j : Nat} {f : Filter} {x : Expression} {e : Expression.Error} :
      spec.filters[j]? = some f → Expression.read spec.input.dialect f.expr = .ok x →
      x.EvalError row e →
      RowFailure spec i row
        (Step.failure (itemPath "filters" j) (filterLabel j f) f.expr (some i) e)
  | mapping {j : Nat} {m : Mapping} {x : Expression} {e : Expression.Error} :
      spec.mappings[j]? = some m → Expression.read spec.input.dialect m.expr = .ok x →
      x.EvalError row e →
      RowFailure spec i row
        (Step.failure (itemPath "mappings" j) (mappingLabel m) m.expr (some i) e)
  | missing {j : Nat} {m : Mapping} {x : Expression} {found : Outcome} :
      spec.mappings[j]? = some m → Expression.read spec.input.dialect m.expr = .ok x →
      x.outcome row = .ok found → (m.type.coerce found).orElse (fun _ => m.default) = none →
      spec.onMissing = .error → RowFailure spec i row (missingFailure i j m m.expr)

/--
The failures of a run that the data can cause: the input cannot be read, or the root has an error on
it although the root itself can be read, or a selected row has a failure.
-/
inductive DataFailure (spec : Spec) (input : String) : Failure → Prop where
  | input {f : Failure} :
      Document.read spec.input.dialect input = .error f → DataFailure spec input f
  | root {d : Document} {e : Expression.Error} :
      Document.read spec.input.dialect input = .ok d → d.RootError spec.input.root e →
      DataFailure spec input (Document.rootFailure spec.input.root e)
  | row {d : Document} {rows : List Row} {i : Nat} {row : Row} {f : Failure} :
      Document.read spec.input.dialect input = .ok d → d.rows spec.input.root = .ok rows →
      rows[i]? = some row → spec.RowFailure i row f → DataFailure spec input f

variable {spec : Spec} {values : Members} {row : Row} {i : Nat} {f : Failure} {input : String}

/-- A failure on a row names the row, and is of one of three kinds. -/
theorem RowFailure.kind (h : spec.RowFailure i row f) :
    f.row = some i ∧
      (f.kind = .expressionEvaluation ∨ f.kind = .aborted ∨ f.kind = .missingValue) := by
  -- an error that nothing contains aborts the run, and all others are errors of evaluation
  have hstep : ∀ path label expr e,
      (Step.failure path label expr (some i) e).kind = .expressionEvaluation ∨
        (Step.failure path label expr (some i) e).kind = .aborted := by
    intro path label expr e
    simp only [Step.failure, Document.expressionFailure]
    cases e.isFatal <;> simp
  cases h with
  | filter _ _ _ => exact ⟨rfl, (hstep _ _ _ _).imp_right .inl⟩
  | mapping _ _ _ => exact ⟨rfl, (hstep _ _ _ _).imp_right .inl⟩
  | missing _ _ _ _ _ => exact ⟨rfl, .inr (.inr rfl)⟩

/-- The data cannot cause the kinds of failure that a spec or the variables cause. -/
theorem DataFailure.kind (h : spec.DataFailure input f) :
    f.kind ≠ .schemaValidation ∧ f.kind ≠ .missingVariable ∧ f.kind ≠ .unsupportedOutputOption ∧
      (f.kind = .expressionEvaluation → ∃ i, f.row = some i) := by
  cases h with
  | input hread =>
      rcases Document.read_cases spec.input.dialect input with ⟨d, hd, _⟩ | ⟨message, herror⟩
      · rw [hd] at hread
        cases hread
      · rw [herror] at hread
        cases hread
        simp [Document.invalidInput]
  | @root d e _ _ =>
      simp only [Document.rootFailure, Document.expressionFailure]
      cases e.isFatal <;> simp
  | row _ _ _ hrow =>
      rcases hrow.kind with ⟨hi, hkind⟩
      refine ⟨?_, ?_, ?_, fun _ => ⟨_, hi⟩⟩ <;> rcases hkind with hkind | hkind | hkind <;>
        simp [hkind]

/-! ## What the check of a specification promises -/

/-- A sound expression without holes can be read. -/
theorem SoundExpr.exists_read {dialect : Dialect} {expr : String} (h : SoundExpr dialect expr)
    (hholes : Template.hasHoles expr = false) : ∃ x, Expression.read dialect expr = .ok x := by
  rcases h.readable with hhole | hread
  · rw [hholes] at hhole
    cases hhole
  · exact hread

theorem reads_of_no_holes {expr : String} {x : Expression}
    (hholes : Template.hasHoles expr = false)
    (hread : Expression.read spec.input.dialect expr = .ok x) : spec.Reads values expr expr x :=
  ⟨Template.fill_of_no_holes hholes _, hread⟩

/-- A well shaped spec without holes compiles, whatever the variables. -/
theorem compiles_of_no_holes (hshape : spec.WellShaped) (hfree : spec.NoHoles)
    (values : Members) : spec.Compiles values spec.input.root where
  root := Template.fill_of_no_holes hfree.root _
  filters := by
    intro f hf
    rcases (hshape.filters f hf).exists_read (hfree.filters f hf) with ⟨x, hx⟩
    exact ⟨f.expr, x, reads_of_no_holes (hfree.filters f hf) hx⟩
  mappings := by
    intro m hm
    rcases (hshape.mappings m hm).expr.exists_read (hfree.mappings m hm) with ⟨x, hx⟩
    exact ⟨m.expr, x, reads_of_no_holes (hfree.mappings m hm) hx⟩

/-- A sound root without holes can be read. -/
theorem checkRoot_of_no_holes (hshape : spec.WellShaped) (hfree : spec.NoHoles) :
    Expression.checkRoot spec.input.dialect spec.input.root = .ok () := by
  rcases hshape.root.readable with hhole | hcheck
  · rw [hfree.root] at hhole
    cases hhole
  · exact hcheck

/-- An expression without holes is read as it stands. -/
theorem Reads.of_no_holes {expr text : String} {x : Expression}
    (hholes : Template.hasHoles expr = false) (h : spec.Reads values expr text x) :
    text = expr ∧ Expression.read spec.input.dialect expr = .ok x := by
  have htext : text = expr :=
    Except.ok.inj (h.fills.symm.trans (Template.fill_of_no_holes hholes _))
  exact ⟨htext, htext ▸ h.read⟩

/-- Where a spec has no holes, every failure on a row is one that the data can cause. -/
theorem Fails.rowFailure (hfree : spec.NoHoles) (hrow : row.dialect = spec.input.dialect)
    (h : spec.Fails values i row f) : spec.RowFailure i row f := by
  cases h with
  | @filter before after step text x e heq _ hread herror =>
      have hmem : step ∈ spec.filters := heq ▸ List.mem_append_right _ List.mem_cons_self
      have hget : spec.filters[before.length]? = some step := by simp [heq]
      -- nothing was filled in, so the text that was read is the one that was checked
      rcases hread.of_no_holes (hfree.filters step hmem) with ⟨rfl, hx⟩
      have hdialect := (Expression.dialect_of_read hx).trans hrow.symm
      rw [Expression.passes_eq_error_iff] at herror
      exact .filter hget hx (Expression.outcome_eq_error hdialect herror)
  | @mapping before after step text x e _ heq _ hread herror =>
      have hmem : step ∈ spec.mappings := heq ▸ List.mem_append_right _ List.mem_cons_self
      have hget : spec.mappings[before.length]? = some step := by simp [heq]
      rcases hread.of_no_holes (hfree.mappings step hmem) with ⟨rfl, hx⟩
      have hdialect := (Expression.dialect_of_read hx).trans hrow.symm
      exact .mapping hget hx (Expression.outcome_eq_error hdialect herror)
  | @missing before after step text _ heq _ hfills hnone hpolicy =>
      have hmem : step ∈ spec.mappings := heq ▸ List.mem_append_right _ List.mem_cons_self
      have hget : spec.mappings[before.length]? = some step := by simp [heq]
      rcases hnone with ⟨text', x, found, hread, hfound, hmissing⟩
      have htext : text = text' := Except.ok.inj (hfills.symm.trans hread.fills)
      subst htext
      rcases hread.of_no_holes (hfree.mappings step hmem) with ⟨rfl, hx⟩
      exact .missing hget hx hfound hmissing hpolicy

/-! ## Every failure is of the data -/

variable {given : Members} {limits : Limits}

/-- With a sound spec without holes, a run fails only for the data's sake. -/
theorem records_eq_error (hshape : spec.shapeFlaws = []) (hfree : spec.NoHoles)
    (h : spec.records input given limits = .error f) : spec.DataFailure input f := by
  have hwell := shapeFlaws_eq_nil_iff.1 hshape
  rw [records, hshape] at h
  rcases Except.bind_eq_error_iff.1 h with hread | ⟨d, hread, h⟩
  · exact .input hread
  have hdialect : d.dialect = spec.input.dialect := by
    rcases Document.read_cases spec.input.dialect input with ⟨d', hd', hkind⟩ | ⟨_, herror⟩
    · rw [hread] at hd'
      cases hd'
      exact hkind
    · rw [hread] at herror
      cases herror
  rcases Except.bind_eq_error_iff.1 h with heval | ⟨rows, _, h⟩
  · -- there is a plan, so the rows of the root are the next thing that can fail
    rcases Plan.exists_make (compiles_of_no_holes hwell hfree (spec.values given)) with
      ⟨p, hp, hroot⟩
    cases hrows : d.rows spec.input.root with
    | error g =>
        rw [evaluate, hp] at heval
        have hrun : (d.rows p.root >>= p.settleAll 0) = .error f := heval
        rw [hroot, hrows] at hrun
        cases hrun
        rcases Except.mapError_eq_error_iff.1 hrows with ⟨e, hselected, rfl⟩
        have hcheck := checkRoot_of_no_holes hwell hfree
        rw [← hdialect] at hcheck
        exact .root hread (Document.selected_eq_error hcheck hselected)
    | ok rows =>
        have hc := compiles_of_no_holes hwell hfree (spec.values given)
        rw [evaluate_eq_settleAll hp (hroot ▸ hrows)] at heval
        -- the first row that stops the run stands at its own position
        rcases settleAll_eq_error hc hp heval with ⟨k, row, hget, hfails, _⟩
        rw [Nat.zero_add] at hfails
        have hrow := Document.dialect_of_rows hrows row (List.mem_of_getElem? hget)
        exact .row hread hrows hget (hfails.rowFailure hfree (hrow.trans hdialect))
  · cases h

/--
A specification that passes the full check and has no holes fails only on the data: the input cannot
be read, the root has an error of evaluation on it, or so has an expression on a selected row, or a
value is missing there. Nothing is left that could be wrong with the specification, the variables or
the output options, and an error of evaluation outside of the root has a row.

Where the failure is of the kind `aborted`, the run returns no error but breaks off in a remainder
that overflows: the failure has no kind of those that are returned, and only says where that was.
-/
theorem transform_fails_on_data (hflaws : spec.flaws = []) (hfree : spec.NoHoles)
    (h : spec.transform input given limits = .error f) :
    spec.DataFailure input f ∧
      f.kind ≠ .schemaValidation ∧ f.kind ≠ .missingVariable ∧ f.kind ≠ .unsupportedOutputOption ∧
      (f.kind = .expressionEvaluation → ∃ i, f.row = some i) := by
  have hparts := List.append_eq_nil_iff.1 hflaws
  have hdata : spec.DataFailure input f := by
    rcases Except.bind_eq_error_iff.1 h with hrecords | ⟨rows, _, hrender⟩
    · exact records_eq_error hparts.1 hfree hrecords
    · -- the options have been checked, so every list of rows can be written
      have hagrees := agrees_render hparts.1 rows
      rw [hparts.2] at hagrees
      rcases hagrees.exists_ok with ⟨out, hout⟩
      rw [hout] at hrender
      cases hrender
  exact ⟨hdata, hdata.kind⟩

def firstNames : Spec where
  version := 1
  name := "names"
  input := ⟨.json, "."⟩
  output := ⟨.csv, [("header", .bool false)]⟩
  mappings := [⟨"first", "name.first", .string, none⟩]
  filters := []
  onMissing := .error
  parameters := []

/-- Two people, of whom the second has a name that is not divided. -/
def twoNames : String :=
  "[\x7b\"name\": \x7b\"first\": \"Bo\"\x7d\x7d, \x7b\"name\": \"Ana\"\x7d]"

def undivided : Failure :=
  Step.failure "mappings[0]" "mapping 'first'" "name.first" (some 1)
    (.query (.cannotIndex .string "\"first\""))

/-- A name that is not divided fails a run of a spec without flaws or holes, as the data can. -/
theorem transform_fails_on_data_of_firstNames :
    firstNames.flaws = [] ∧ firstNames.NoHoles ∧
      firstNames.transform twoNames [] .none = .error undivided ∧
        firstNames.DataFailure twoNames undivided := by
  have hflaws : firstNames.flaws = [] := by decide +kernel
  have hfree : firstNames.NoHoles := by
    refine ⟨by decide +kernel, nofun, ?_⟩
    intro m hm
    rcases List.mem_singleton.1 hm with rfl
    decide +kernel
  have hends : (firstNames.transform twoNames [] .none).map (fun _ => ()) = .error undivided := by
    decide +kernel
  have hrun : firstNames.transform twoNames [] .none = .error undivided :=
    Except.map_eq_error_iff.1 hends
  exact ⟨hflaws, hfree, hrun, (transform_fails_on_data hflaws hfree hrun).1⟩

end Spec
end Gleaner
