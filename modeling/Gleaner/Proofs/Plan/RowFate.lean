import Gleaner.Proofs.Sequencing
import Gleaner.Transform
/-!
# What becomes of a row

A specification says of each selected row whether it is dropped, skipped, written or refused. Here
this is said of the specification alone, without the plan that runs it:

* `Spec.Decides` and `Spec.Finds` are what a filter decides and what a mapping finds;
* `Spec.Passes`, `Spec.Skips`, `Spec.Yields` and `Spec.Fails` are the fates of a row;
* `Plan.settle_of_fails` and its companions: the plan gives a row the fate that the specification
  says it has;
* `Spec.fate_cases`: when the expressions can be read, every row has one of the fates.
-/

namespace Gleaner

open Plan

namespace Spec

variable {spec : Spec} {values : Members} {row : Row}

/-! ## Expressions that can be read -/

/-- What stands as an expression in a specification becomes `text` when its holes are filled. -/
def Fills (spec : Spec) (values : Members) (expr text : String) : Prop :=
  Template.fill spec.input.dialect (bindings spec values) expr = .ok text

/-- An expression of a specification, with its holes filled, is read as `x`. -/
structure Reads (spec : Spec) (values : Members) (expr text : String) (x : Expression) : Prop where
  fills : spec.Fills values expr text
  read : Expression.read spec.input.dialect text = .ok x

/-- An expression is read in one way. -/
theorem Reads.unique {expr text text' : String} {x x' : Expression}
    (h : spec.Reads values expr text x) (h' : spec.Reads values expr text' x') :
    text = text' ∧ x = x' := by
  have htext : text = text' := Except.ok.inj (h.fills.symm.trans h'.fills)
  subst htext
  exact ⟨rfl, Except.ok.inj (h.read.symm.trans h'.read)⟩

/-- The root can be filled, and the expressions of all filters and mappings can be read. -/
structure Compiles (spec : Spec) (values : Members) (root : String) : Prop where
  root : spec.Fills values spec.input.root root
  filters : ∀ f ∈ spec.filters, ∃ text x, spec.Reads values f.expr text x
  mappings : ∀ m ∈ spec.mappings, ∃ text x, spec.Reads values m.expr text x

/-! ## The fates of a row -/

/-- The decision of a filter on a row. -/
def Decides (spec : Spec) (values : Members) (row : Row) (f : Filter) (passes : Bool) : Prop :=
  ∃ text x, spec.Reads values f.expr text x ∧ x.passes row = .ok passes

/-- What a mapping finds on a row, brought to its type; a default stands in for nothing. -/
def Finds (spec : Spec) (values : Members) (row : Row) (m : Mapping) (o : Outcome) : Prop :=
  ∃ text x found, spec.Reads values m.expr text x ∧ x.outcome row = .ok found ∧
    (m.type.coerce found).orElse (fun _ => m.default) = o

/-- The row passes every filter. -/
def Passes (spec : Spec) (values : Members) (row : Row) : Prop :=
  ∀ f ∈ spec.filters, spec.Decides values row f true

/-- The value in a mapping's column: what it finds, or null for nothing where that is allowed. -/
inductive Cell (spec : Spec) (values : Members) (row : Row) (m : Mapping) : Json → Prop where
  | found {v : Json} : spec.Finds values row m (some v) → Cell spec values row m v
  | null : spec.Finds values row m none → spec.onMissing = .null → Cell spec values row m .null

/-- The cells of some mappings: their names in order, each with the value in its column. -/
def Cells (spec : Spec) (values : Members) (row : Row) :
    List Mapping → List (String × Json) → Prop :=
  List.Forall₂ fun m cell => cell.1 = m.name ∧ spec.Cell values row m cell.2

/-- The row is dropped: a filter does not let it pass, and those before it do. -/
inductive Drops (spec : Spec) (values : Members) (row : Row) : Prop where
  | rejected {before after : List Filter} {f : Filter} :
      spec.filters = before ++ f :: after → (∀ b ∈ before, spec.Decides values row b true) →
      spec.Decides values row f false → Drops spec values row

/-- The row becomes a record: it has a cell for every mapping. -/
def Yields (spec : Spec) (values : Members) (row : Row) (r : Record) : Prop :=
  spec.Cells values row spec.mappings r.toList

/-- The row is skipped: a mapping finds nothing, and those before it have their cells. -/
inductive Skips (spec : Spec) (values : Members) (row : Row) : Prop where
  | missing {before after : List Mapping} {m : Mapping} :
      spec.mappings = before ++ m :: after → (∀ b ∈ before, ∃ v, spec.Cell values row b v) →
      spec.Finds values row m none → spec.onMissing = .skipRow → Skips spec values row

/-- The failure of the row at position `i` for want of a value in the column of mapping `j`. -/
def missingFailure (i j : Nat) (m : Mapping) (text : String) : Failure where
  kind := .missingValue
  message := mappingLabel m ++ " produced no value for row " ++ toString i
  path := some (itemPath "mappings" j)
  row := some i
  expr := some text

/--
The failure of the row at position `i` among the selected ones, which is that of its first step that
cannot be taken. All filters come before the mappings, and each step is taken only after those
before it: a filter after filters that pass, a mapping after mappings that have their cells.
-/
inductive Fails (spec : Spec) (values : Members) (i : Nat) (row : Row) : Failure → Prop where
  | filter {before after : List Filter} {f : Filter} {text : String} {x : Expression}
      {e : Expression.Error} :
      spec.filters = before ++ f :: after → (∀ b ∈ before, spec.Decides values row b true) →
      spec.Reads values f.expr text x → x.passes row = .error e →
      Fails spec values i row
        (Step.failure (itemPath "filters" before.length) (filterLabel before.length f) text (some i)
          e)
  | mapping {before after : List Mapping} {m : Mapping} {text : String} {x : Expression}
      {e : Expression.Error} :
      spec.Passes values row →
      spec.mappings = before ++ m :: after → (∀ b ∈ before, ∃ v, spec.Cell values row b v) →
      spec.Reads values m.expr text x → x.outcome row = .error e →
      Fails spec values i row
        (Step.failure (itemPath "mappings" before.length) (mappingLabel m) text (some i) e)
  | missing {before after : List Mapping} {m : Mapping} {text : String} :
      spec.Passes values row →
      spec.mappings = before ++ m :: after → (∀ b ∈ before, ∃ v, spec.Cell values row b v) →
      spec.Fills values m.expr text → spec.Finds values row m none → spec.onMissing = .error →
      Fails spec values i row (missingFailure i before.length m text)

/-- A filter decides in one way. -/
theorem Decides.unique {f : Filter} {b b' : Bool} (h : spec.Decides values row f b)
    (h' : spec.Decides values row f b') : b = b' := by
  rcases h with ⟨text, x, hread, hb⟩
  rcases h' with ⟨text', x', hread', hb'⟩
  rcases hread.unique hread' with ⟨rfl, rfl⟩
  exact Except.ok.inj (hb.symm.trans hb')

/-- A row with a cell for each mapping has them all together. -/
theorem exists_cells {ms : List Mapping} (h : ∀ m ∈ ms, ∃ v, spec.Cell values row m v) :
    ∃ cells, spec.Cells values row ms cells := by
  induction ms with
  | nil => exact ⟨[], .nil⟩
  | cons m ms ih =>
      rcases h m List.mem_cons_self with ⟨v, hv⟩
      rcases ih fun b hb => h b (List.mem_cons_of_mem m hb) with ⟨cells, hcells⟩
      exact ⟨(m.name, v) :: cells, .cons ⟨rfl, hv⟩ hcells⟩

theorem Cells.names {ms : List Mapping} {cells : List (String × Json)}
    (h : spec.Cells values row ms cells) : cells.map Prod.fst = ms.map (·.name) := by
  induction h with
  | nil => rfl
  | cons hcell _ ih => rw [List.map_cons, List.map_cons, hcell.1, ih]

/-- What holds of every cell that a mapping can have holds of the cells of some mappings. -/
theorem Cells.forall_mem {Q : Json → Prop} {ms : List Mapping} {cells : List (String × Json)}
    (hQ : ∀ m ∈ ms, ∀ v, spec.Cell values row m v → Q v) (h : spec.Cells values row ms cells) :
    ∀ cell ∈ cells, Q cell.2 := by
  induction h with
  | nil => exact nofun
  | @cons m cell ms cells hcell _ ih =>
      rw [List.forall_mem_cons] at hQ
      exact List.forall_mem_cons.2 ⟨hQ.1 cell.2 hcell.2, ih hQ.2⟩

/-! ## Every row has a fate -/

/-- Where everything compiles, a row has one of five fates. -/
theorem fate_cases {root : String} (h : spec.Compiles values root) (i : Nat) (row : Row) :
    spec.Drops values row ∨ spec.Passes values row ∧ spec.Skips values row ∨
      (∃ r, spec.Passes values row ∧ spec.Yields values row r) ∨
        ∃ f, spec.Fails values i row f := by
  by_cases hpass : spec.Passes values row
  · by_cases hcells : ∀ m ∈ spec.mappings, ∃ v, spec.Cell values row m v
    · rcases exists_cells hcells with ⟨cells, hcells⟩
      exact .inr (.inr (.inl ⟨⟨cells⟩, hpass, hcells⟩))
    · -- the first mapping without a cell has an error, or nothing where null is not allowed
      rcases List.exists_first_not hcells with ⟨before, m, after, heq, hbefore, hnot⟩
      have hmem : m ∈ spec.mappings := heq ▸ List.mem_append_right _ List.mem_cons_self
      rcases h.mappings m hmem with ⟨text, x, hread⟩
      cases hx : x.outcome row with
      | error e => exact .inr (.inr (.inr ⟨_, .mapping hpass heq hbefore hread hx⟩))
      | ok found =>
          cases ho : (m.type.coerce found).orElse fun _ => m.default with
          | some v => exact absurd ⟨v, .found ⟨text, x, found, hread, hx, ho⟩⟩ hnot
          | none =>
              have hnone : spec.Finds values row m none := ⟨text, x, found, hread, hx, ho⟩
              cases hpolicy : spec.onMissing with
              | null => exact absurd ⟨_, .null hnone hpolicy⟩ hnot
              | skipRow => exact .inr (.inl ⟨hpass, .missing heq hbefore hnone hpolicy⟩)
              | error =>
                  exact .inr (.inr (.inr
                    ⟨_, .missing hpass heq hbefore hread.fills hnone hpolicy⟩))
  · -- the first filter that does not pass the row rejects it or has an error
    rcases List.exists_first_not hpass with ⟨before, f, after, heq, hbefore, hnot⟩
    have hmem : f ∈ spec.filters := heq ▸ List.mem_append_right _ List.mem_cons_self
    rcases h.filters f hmem with ⟨text, x, hread⟩
    cases hx : x.passes row with
    | error e => exact .inr (.inr (.inr ⟨_, .filter heq hbefore hread hx⟩))
    | ok b =>
        cases b with
        | true => exact absurd ⟨text, x, hread, hx⟩ hnot
        | false => exact .inl (.rejected heq hbefore ⟨text, x, hread, hx⟩)

end Spec

/-! ## The steps of a plan -/

namespace Plan

variable {spec : Spec} {values : Members} {row : Row} {i n : Nat}

/-- A step of a plan carries an expression of the specification, which is read. -/
structure Step.Carries (spec : Spec) (values : Members) (path label expr : String) (step : Step) :
    Prop where
  path_eq : step.path = path
  label_eq : step.label = label
  reads : spec.Reads values expr step.expr step.expression

/-- A step is made exactly if its text can be filled and read, and it carries both. -/
theorem Step.make_eq_ok_iff {path label expr : String} {step : Step} :
    Step.make spec values path label expr = .ok step ↔
      step.Carries spec values path label expr := by
  unfold Step.make filled
  simp only [Except.bind_eq_ok_iff, Except.mapError_eq_ok_iff]
  constructor
  · rintro ⟨text, hfill, x, hread, heq⟩
    cases heq
    exact ⟨rfl, rfl, hfill, hread⟩
  · rintro ⟨hpath, hlabel, hfill, hread⟩
    refine ⟨step.expr, hfill, step.expression, hread, ?_⟩
    rw [← hpath, ← hlabel]

/-- The steps of the filters are made one by one, each at its position. -/
theorem makeFilters_cons_eq_ok_iff {f : Filter} {fs : List Filter} {steps : List Step} :
    makeFilters spec values n (f :: fs) = .ok steps ↔
      ∃ step more,
        step.Carries spec values (Spec.itemPath "filters" n) (filterLabel n f) f.expr ∧
          makeFilters spec values (n + 1) fs = .ok more ∧ steps = step :: more := by
  simp only [makeFilters, Except.bind_eq_ok_iff, Step.make_eq_ok_iff, Except.ok.injEq]
  constructor
  · rintro ⟨step, hstep, more, hmore, rfl⟩
    exact ⟨step, more, hstep, hmore, rfl⟩
  · rintro ⟨step, more, hstep, hmore, rfl⟩
    exact ⟨step, hstep, more, hmore, rfl⟩

/-- The steps of the mappings are made one by one, each at its position. -/
theorem makeColumns_cons_eq_ok_iff {m : Mapping} {ms : List Mapping}
    {columns : List (Mapping × Step)} :
    makeColumns spec values n (m :: ms) = .ok columns ↔
      ∃ step more,
        step.Carries spec values (Spec.itemPath "mappings" n) (mappingLabel m) m.expr ∧
          makeColumns spec values (n + 1) ms = .ok more ∧ columns = (m, step) :: more := by
  simp only [makeColumns, Except.bind_eq_ok_iff, Step.make_eq_ok_iff, Except.ok.injEq]
  constructor
  · rintro ⟨step, hstep, more, hmore, rfl⟩
    exact ⟨step, more, hstep, hmore, rfl⟩
  · rintro ⟨step, more, hstep, hmore, rfl⟩
    exact ⟨step, hstep, more, hmore, rfl⟩

/-- Filters that can be read are made into steps. -/
theorem exists_makeFilters {fs : List Filter}
    (h : ∀ f ∈ fs, ∃ text x, spec.Reads values f.expr text x) :
    ∃ steps, makeFilters spec values n fs = .ok steps := by
  induction fs generalizing n with
  | nil => exact ⟨[], rfl⟩
  | cons f fs ih =>
      rcases h f List.mem_cons_self with ⟨text, x, hread⟩
      rcases ih (n := n + 1) fun b hb => h b (List.mem_cons_of_mem f hb) with ⟨more, hmore⟩
      exact ⟨_, makeFilters_cons_eq_ok_iff.2 ⟨⟨_, _, text, x⟩, more, ⟨rfl, rfl, hread⟩, hmore, rfl⟩⟩

/-- Mappings that can be read are made into steps. -/
theorem exists_makeColumns {ms : List Mapping}
    (h : ∀ m ∈ ms, ∃ text x, spec.Reads values m.expr text x) :
    ∃ columns, makeColumns spec values n ms = .ok columns := by
  induction ms generalizing n with
  | nil => exact ⟨[], rfl⟩
  | cons m ms ih =>
      rcases h m List.mem_cons_self with ⟨text, x, hread⟩
      rcases ih (n := n + 1) fun b hb => h b (List.mem_cons_of_mem m hb) with ⟨more, hmore⟩
      exact ⟨_, makeColumns_cons_eq_ok_iff.2 ⟨⟨_, _, text, x⟩, more, ⟨rfl, rfl, hread⟩, hmore, rfl⟩⟩

/-- Only filters that can be read are made into steps. -/
theorem reads_of_makeFilters {fs : List Filter} {steps : List Step}
    (h : makeFilters spec values n fs = .ok steps) :
    ∀ f ∈ fs, ∃ text x, spec.Reads values f.expr text x := by
  induction fs generalizing n steps with
  | nil => simp
  | cons f fs ih =>
      rcases makeFilters_cons_eq_ok_iff.1 h with ⟨step, more, hstep, hmore, rfl⟩
      intro g hg
      rcases List.mem_cons.1 hg with rfl | htail
      · exact ⟨_, _, hstep.reads⟩
      · exact ih hmore g htail

/-- Only mappings that can be read are made into steps. -/
theorem reads_of_makeColumns {ms : List Mapping} {columns : List (Mapping × Step)}
    (h : makeColumns spec values n ms = .ok columns) :
    ∀ m ∈ ms, ∃ text x, spec.Reads values m.expr text x := by
  induction ms generalizing n columns with
  | nil => simp
  | cons m ms ih =>
      rcases makeColumns_cons_eq_ok_iff.1 h with ⟨step, more, hstep, hmore, rfl⟩
      intro b hb
      rcases List.mem_cons.1 hb with rfl | htail
      · exact ⟨_, _, hstep.reads⟩
      · exact ih hmore b htail

/-! ## One row -/

/-- Filters that pass make way for those after them. -/
theorem keeps_of_decides {before rest : List Filter} {steps : List Step}
    (hmake : makeFilters spec values n (before ++ rest) = .ok steps)
    (hpass : ∀ f ∈ before, spec.Decides values row f true) :
    ∃ more, makeFilters spec values (n + before.length) rest = .ok more ∧
      keeps row i steps = keeps row i more := by
  -- the number of the first filter is part of the paths, so the induction is over every number
  induction before generalizing n steps with
  | nil => exact ⟨steps, hmake, rfl⟩
  | cons f before ih =>
      rcases makeFilters_cons_eq_ok_iff.1 hmake with ⟨step, tail, hstep, htail, rfl⟩
      rcases hpass f List.mem_cons_self with ⟨text, x, hread, hx⟩
      rcases hread.unique hstep.reads with ⟨rfl, rfl⟩
      rcases ih htail fun g hg => hpass g (List.mem_cons_of_mem f hg) with ⟨more, hmore, hkeeps⟩
      refine ⟨more, ?_, ?_⟩
      · rwa [List.length_cons, Nat.add_comm before.length 1, ← Nat.add_assoc]
      · rw [← hkeeps, keeps, hx]
        rfl

/-- A step that carries a mapping finds what the mapping finds. -/
theorem Step.Carries.value?_eq_ok {path label : String} {m : Mapping} {step : Step} {o : Outcome}
    (h : step.Carries spec values path label m.expr) (ho : spec.Finds values row m o) :
    value? row i m step = .ok o := by
  rcases ho with ⟨text, x, found, hread, hfound, rfl⟩
  rcases hread.unique h.reads with ⟨rfl, rfl⟩
  rw [value?, hfound]
  rfl

/-- The equation of `record?` for any policy; the definition's own has one for each. -/
theorem record?_cons (policy : OnMissing) (soFar : Record) (m : Mapping) (step : Step)
    (rest : List (Mapping × Step)) :
    record? policy row i soFar ((m, step) :: rest) =
      (value? row i m step).bind fun
        | some v => record? policy row i (soFar.push m.name v) rest
        | none =>
          match policy with
          | .null => record? policy row i (soFar.push m.name .null) rest
          | .skipRow => .ok none
          | .error => .error (missingValue i step) :=
  rfl

/-- A mapping with a cell adds the cell to the record, and the next mapping is taken. -/
theorem record?_cons_of_cell {m : Mapping} {step : Step} {rest : List (Mapping × Step)} {v : Json}
    {path label : String} {soFar : Record} (h : step.Carries spec values path label m.expr)
    (hv : spec.Cell values row m v) :
    record? spec.onMissing row i soFar ((m, step) :: rest) =
      record? spec.onMissing row i (soFar.push m.name v) rest := by
  cases hv with
  | found hfound =>
      rw [record?_cons, h.value?_eq_ok hfound]
      rfl
  | null hnone hpolicy =>
      rw [record?_cons, h.value?_eq_ok hnone, hpolicy]
      rfl

/-- Mappings that have their cells make way for those after them. -/
theorem record?_of_cells {before rest : List Mapping} {columns : List (Mapping × Step)}
    {cells : List (String × Json)} (soFar : Record)
    (hmake : makeColumns spec values n (before ++ rest) = .ok columns)
    (hcells : spec.Cells values row before cells) :
    ∃ more, makeColumns spec values (n + before.length) rest = .ok more ∧
      record? spec.onMissing row i soFar columns =
        record? spec.onMissing row i ⟨soFar.cells ++ cells⟩ more := by
  induction hcells generalizing n columns soFar with
  | nil => exact ⟨columns, hmake, by rw [List.append_nil]⟩
  | @cons m cell before cells hcell _ ih =>
      rcases makeColumns_cons_eq_ok_iff.1 hmake with ⟨step, tail, hstep, htail, rfl⟩
      rcases ih (soFar.push m.name cell.2) htail with ⟨more, hmore, hrecord⟩
      refine ⟨more, ?_, ?_⟩
      · rwa [List.length_cons, Nat.add_comm before.length 1, ← Nat.add_assoc]
      · have hpush : (soFar.push m.name cell.2).cells ++ cells = soFar.cells ++ cell :: cells := by
          rw [← hcell.1]
          exact List.append_assoc _ _ _
        rw [record?_cons_of_cell hstep hcell.2, hrecord, hpush]

/-! ## The plan gives every row its fate -/

section Settling

variable {p : Plan} {root : String}

/-- A plan is made of the filled root, the steps in their order, and the policy. -/
theorem make_eq_ok_iff :
    Plan.make spec values = .ok p ↔
      spec.Fills values spec.input.root p.root ∧
        makeFilters spec values 0 spec.filters = .ok p.filters ∧
          makeColumns spec values 0 spec.mappings = .ok p.columns ∧
            p.onMissing = spec.onMissing := by
  unfold Plan.make filled
  simp only [Except.bind_eq_ok_iff, Except.mapError_eq_ok_iff]
  constructor
  · rintro ⟨root, hroot, filters, hfilters, columns, hcolumns, heq⟩
    cases heq
    exact ⟨hroot, hfilters, hcolumns, rfl⟩
  · rintro ⟨hroot, hfilters, hcolumns, hpolicy⟩
    refine ⟨p.root, hroot, p.filters, hfilters, p.columns, hcolumns, ?_⟩
    rw [← hpolicy]

/-- A spec that compiles has a plan. -/
theorem exists_make (h : spec.Compiles values root) :
    ∃ p, Plan.make spec values = .ok p ∧ p.root = root := by
  rcases exists_makeFilters h.filters (n := 0) with ⟨filters, hfilters⟩
  rcases exists_makeColumns h.mappings (n := 0) with ⟨columns, hcolumns⟩
  exact ⟨⟨root, filters, columns, spec.onMissing⟩,
    make_eq_ok_iff.2 ⟨h.root, hfilters, hcolumns, rfl⟩, rfl⟩

/-- A plan is made only of expressions that can be read. -/
theorem compiles_of_make (hp : Plan.make spec values = .ok p) : spec.Compiles values p.root := by
  rcases make_eq_ok_iff.1 hp with ⟨hroot, hfilters, hcolumns, _⟩
  exact ⟨hroot, reads_of_makeFilters hfilters, reads_of_makeColumns hcolumns⟩

/-- The filters of a plan keep a row that passes those of the spec. -/
theorem keeps_of_passes (hp : Plan.make spec values = .ok p) (h : spec.Passes values row) :
    keeps row i p.filters = .ok true := by
  -- all filters are those before the end of the list
  have hmake := (make_eq_ok_iff.1 hp).2.1
  rw [← List.append_nil spec.filters] at hmake
  rcases keeps_of_decides hmake h with ⟨more, hmore, hkeeps⟩
  cases hmore
  exact hkeeps

theorem settle_of_passes (hp : Plan.make spec values = .ok p) (h : spec.Passes values row) :
    p.settle i row = record? spec.onMissing row i .empty p.columns := by
  rw [settle, keeps_of_passes hp h, (make_eq_ok_iff.1 hp).2.2.2]
  rfl

/-- A plan gives nothing for a row that a filter drops. -/
theorem settle_of_drops (hp : Plan.make spec values = .ok p) (h : spec.Drops values row) :
    p.settle i row = .ok none := by
  cases h with
  | rejected heq hbefore hf =>
      have hmake := (make_eq_ok_iff.1 hp).2.1
      rw [heq] at hmake
      rcases keeps_of_decides hmake hbefore with ⟨more, hmore, hkeeps⟩
      rcases makeFilters_cons_eq_ok_iff.1 hmore with ⟨step, tail, hstep, _, rfl⟩
      rcases hf with ⟨text, x, hread, hx⟩
      rcases hread.unique hstep.reads with ⟨rfl, rfl⟩
      rw [settle, hkeeps, keeps, hx]
      rfl

/-- A plan gives the record that a row yields. -/
theorem settle_of_yields (hp : Plan.make spec values = .ok p) (h : spec.Passes values row)
    {r : Record} (hr : spec.Yields values row r) : p.settle i row = .ok (some r) := by
  have hmake := (make_eq_ok_iff.1 hp).2.2.1
  rw [← List.append_nil spec.mappings] at hmake
  rcases record?_of_cells .empty hmake hr with ⟨more, hmore, hrecord⟩
  cases hmore
  rw [settle_of_passes hp h, hrecord]
  rfl

/-- The mapping at which a row stops, after mappings that have their cells. -/
theorem settle_of_stops (hp : Plan.make spec values = .ok p) (h : spec.Passes values row)
    {before after : List Mapping} {m : Mapping} (heq : spec.mappings = before ++ m :: after)
    (hbefore : ∀ b ∈ before, ∃ v, spec.Cell values row b v) :
    ∃ soFar step tail,
      step.Carries spec values (Spec.itemPath "mappings" before.length) (mappingLabel m) m.expr ∧
        p.settle i row = record? spec.onMissing row i soFar ((m, step) :: tail) := by
  have hmake := (make_eq_ok_iff.1 hp).2.2.1
  rw [heq] at hmake
  rcases Spec.exists_cells hbefore with ⟨cells, hcells⟩
  rcases record?_of_cells .empty hmake hcells with ⟨more, hmore, hrecord⟩
  rw [Nat.zero_add] at hmore
  rcases makeColumns_cons_eq_ok_iff.1 hmore with ⟨step, tail, hstep, _, rfl⟩
  exact ⟨_, step, tail, hstep, (settle_of_passes hp h).trans hrecord⟩

/-- A plan gives nothing for a row that is skipped. -/
theorem settle_of_skips (hp : Plan.make spec values = .ok p) (h : spec.Passes values row)
    (hs : spec.Skips values row) : p.settle i row = .ok none := by
  cases hs with
  | missing heq hbefore hnone hpolicy =>
      rcases settle_of_stops hp h heq hbefore with ⟨soFar, step, tail, hstep, hsettle⟩
      rw [hsettle, record?_cons, hstep.value?_eq_ok hnone, hpolicy]
      rfl

/-- A plan fails on a row with the failure the spec describes. -/
theorem settle_of_fails (hp : Plan.make spec values = .ok p) {f : Failure}
    (hf : spec.Fails values i row f) : p.settle i row = .error f := by
  cases hf with
  | filter heq hbefore hread herror =>
      have hmake := (make_eq_ok_iff.1 hp).2.1
      rw [heq] at hmake
      -- the filters before the failing one let the row pass
      rcases keeps_of_decides hmake hbefore with ⟨more, hmore, hkeeps⟩
      rw [Nat.zero_add] at hmore
      rcases makeFilters_cons_eq_ok_iff.1 hmore with ⟨step, tail, hstep, _, rfl⟩
      rcases hread.unique hstep.reads with ⟨rfl, rfl⟩
      rw [settle, hkeeps, keeps, herror, hstep.path_eq, hstep.label_eq]
      rfl
  | mapping hpass heq hbefore hread herror =>
      rcases settle_of_stops hp hpass heq hbefore with ⟨soFar, step, tail, hstep, hsettle⟩
      rcases hread.unique hstep.reads with ⟨rfl, rfl⟩
      rw [hsettle, record?_cons, value?, herror, hstep.path_eq, hstep.label_eq]
      rfl
  | missing hpass heq hbefore hfills hnone hpolicy =>
      rcases settle_of_stops hp hpass heq hbefore with ⟨soFar, step, tail, hstep, hsettle⟩
      have htext := Except.ok.inj (hfills.symm.trans hstep.reads.fills)
      rw [hsettle, record?_cons, hstep.value?_eq_ok hnone, hpolicy, htext, Spec.missingFailure,
        ← hstep.path_eq, ← hstep.label_eq]
      rfl

end Settling

end Plan
end Gleaner
