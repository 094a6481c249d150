import Gleaner.Proofs.Json.Members
import Gleaner.Proofs.Template.Occurrences
import Gleaner.Proofs.Template.QuerySubstitution
import Gleaner.Transform
/-!
# References to variables

A run looks at a variable only through the holes of its expressions, so nothing else about the given
variables matters.

* `Members.get?_insertAll`: of several values for a name the last one counts;
* `Template.fill_congr`: filling depends on the values of the holes alone;
* `Spec.references` are the names of all holes of a specification;
* `Plan.make_congr` carries this to plans, along the filters and the columns;
* `Spec.transform_congr` and `Spec.only_references_matter` carry it to whole runs.
-/

namespace Gleaner

/-! ## Values by name -/

namespace Members

/-- The values that a list of members gives for a name, in order. -/
def assigned (name : String) (ms : Members) : List Json :=
  (ms.filter fun m => m.1 == name).map Prod.snd

theorem assigned_cons_self (name : String) (v : Json) (ms : Members) :
    assigned name ((name, v) :: ms) = v :: assigned name ms := by
  simp [assigned]

theorem assigned_cons_of_ne {name key : String} (h : key ≠ name) (v : Json) (ms : Members) :
    assigned name ((key, v) :: ms) = assigned name ms := by
  simp [assigned, h]

theorem assigned_append (name : String) (ms more : Members) :
    assigned name (ms ++ more) = assigned name ms ++ assigned name more := by
  simp [assigned]

/-- A name that is no key has no value. -/
theorem assigned_eq_nil {name : String} {ms : Members} (h : name ∉ keys ms) :
    assigned name ms = [] := by
  induction ms with
  | nil => rfl
  | cons m ms ih =>
      have hkey : m.1 ≠ name := fun heq => h (heq ▸ List.mem_cons_self)
      rw [assigned_cons_of_ne hkey]
      exact ih fun hmem => h (List.mem_cons_of_mem _ hmem)

/-- A list without repeated names gives a name the value that is found for it. -/
theorem assigned_of_nodup {ms : Members} (h : (keys ms).Nodup) (name : String) :
    assigned name ms = (get? name ms).toList := by
  induction ms with
  | nil => rfl
  | cons m ms ih =>
      rcases m with ⟨key, v⟩
      rcases List.nodup_cons.1 h with ⟨hnew, hrest⟩
      by_cases hkey : key = name
      · rw [hkey] at hnew ⊢
        rw [assigned_cons_self, assigned_eq_nil hnew, get?, if_pos rfl]
        rfl
      · rw [assigned_cons_of_ne hkey, ih hrest, get?, if_neg hkey]

/-- Of several values for a name the last one counts; without any, an earlier one stays. -/
theorem get?_insertAll (name : String) (ms more : Members) :
    get? name (insertAll ms more) = (assigned name more).getLast?.or (get? name ms) := by
  induction more generalizing ms with
  | nil => rfl
  | cons m more ih =>
      rcases m with ⟨key, v⟩
      have hstep : insertAll ms ((key, v) :: more) = insertAll (insert key v ms) more := rfl
      rw [hstep, ih]
      by_cases hkey : key = name
      · rw [hkey, get?_insert_self, assigned_cons_self, List.getLast?_cons]
        cases (assigned name more).getLast? <;> rfl
      · rw [get?_insert_of_ne (Ne.symm hkey), assigned_cons_of_ne hkey]

end Members

/-! ## Holes -/

namespace Template

variable {b b' : Bindings}

/-- The names of the holes of an expression. -/
def references (expr : String) : List String :=
  (placeholders expr).map Placeholder.name

/-- An expression refers to the names of its holes. -/
theorem mem_references_iff {name expr : String} :
    name ∈ references expr ↔ .hole name ∈ pieces expr.toList := by
  rw [references, placeholders, map_name_placeholdersFrom, holeNames, List.mem_filterMap]
  constructor
  · rintro ⟨p, hp, hname⟩
    cases p with
    | char c => cases hname
    | hole other =>
        cases hname
        exact hp
  · intro hmem
    exact ⟨_, hmem, rfl⟩

/-- The bindings give the same values for the holes among the pieces. -/
def AgreeOn (b b' : Bindings) (ps : List Piece) : Prop :=
  ∀ name, .hole name ∈ ps → b.value name = b'.value name

theorem AgreeOn.tail {p : Piece} {ps : List Piece} (h : AgreeOn b b' (p :: ps)) :
    AgreeOn b b' ps :=
  fun name hmem => h name (List.mem_cons_of_mem p hmem)

theorem AgreeOn.head {name : String} {ps : List Piece} (h : AgreeOn b b' (.hole name :: ps)) :
    b.value name = b'.value name :=
  h name List.mem_cons_self

/-- Filling a query looks only at the values of its holes. -/
theorem fillQuery_congr {ps : List Piece} (h : AgreeOn b b' ps) (before : Option Char) :
    fillQuery b before ps = fillQuery b' before ps := by
  induction ps generalizing before with
  | nil => rfl
  | cons p rest ih =>
      cases p with
      | char c => rw [fillQuery, fillQuery, ih h.tail]
      | hole name => rw [fillQuery_hole, fillQuery_hole, h.head, ih h.tail]

/-- Filling a path looks only at the values of its holes. -/
theorem fillPath_congr {ps : List Piece} (h : AgreeOn b b' ps) :
    fillPath b ps = fillPath b' ps := by
  -- a hole between quotes is filled together with them, so the cases are those of the filling
  induction ps using fillPath.induct with
  | case1 => rfl
  | case2 open' name close rest hquotes ih =>
      rw [fillPath, fillPath, if_pos hquotes, if_pos hquotes, h.tail.head, ih h.tail.tail.tail]
  | case3 open' name close rest hquotes ih =>
      rw [fillPath, fillPath, if_neg hquotes, if_neg hquotes, ih h.tail]
  | case4 c rest hplain ih =>
      rw [fillPath, fillPath, ih h.tail] <;> exact hplain
  | case5 name rest ih => rw [fillPath, fillPath, h.head, ih h.tail]

/-- Filling a selector looks only at the values of its holes. -/
theorem fillSelector_congr {ps : List Piece} (h : AgreeOn b b' ps) :
    fillSelector b ps = fillSelector b' ps := by
  induction ps with
  | nil => rfl
  | cons p rest ih =>
      cases p with
      | char c => rw [fillSelector, fillSelector, ih h.tail]
      | hole name => rw [fillSelector, fillSelector, h.head, ih h.tail]

/-- Filling an expression, its failure included, depends on the values of its holes alone. -/
theorem fill_congr {expr : String} (h : ∀ name ∈ references expr, b.value name = b'.value name)
    (dialect : Dialect) : fill dialect b expr = fill dialect b' expr := by
  have hagree : AgreeOn b b' (pieces expr.toList) := by
    intro name hmem
    exact h name (mem_references_iff.2 hmem)
  cases dialect with
  | json => simp only [fill, fillQuery_congr hagree]
  | xml => simp only [fill, fillPath_congr hagree]
  | html => simp only [fill, fillSelector_congr hagree]

/-- The declared type of a variable depends on the declarations of its name alone. -/
theorem Bindings.type?_eq (b : Bindings) (name : String) :
    b.type? name = ((b.types.filter fun t => t.1 == name).getLast?).map Prod.snd := by
  rw [Bindings.type?, ← List.head?_filter, List.filter_reverse, List.head?_reverse]

end Template

/-! ## Specifications -/

namespace Spec

variable {spec : Spec} {parameters : List Parameter} {values values' : Members}

def expressions (spec : Spec) : List String :=
  spec.input.root :: (spec.filters.map Filter.expr ++ spec.mappings.map Mapping.expr)

def references (spec : Spec) : List String :=
  spec.expressions.flatMap Template.references

def withParameters (spec : Spec) (parameters : List Parameter) : Spec :=
  { spec with parameters := parameters }

/-- What two runs of a specification, with parameters of their own, see of the variables. -/
def SameBindings (spec : Spec) (parameters : List Parameter) (values values' : Members) : Prop :=
  ∀ name ∈ spec.references, (Plan.bindings spec values).value name =
    (Plan.bindings (spec.withParameters parameters) values').value name

/-- The declarations of a name, but for whether the variable is required. -/
def declarations (name : String) (parameters : List Parameter) :
    List (ParameterType × Option Json) :=
  (parameters.filter fun p => p.name == name).map fun p => (p.type, p.default)

/-- A parameter is the only declaration of its name where no two have the same name. -/
theorem declarations_of_mem {p : Parameter} (hdistinct : (parameters.map (·.name)).Nodup)
    (hp : p ∈ parameters) : declarations p.name parameters = [(p.type, p.default)] := by
  unfold declarations
  induction parameters with
  | nil => cases hp
  | cons q qs ih =>
      rcases List.nodup_cons.1 hdistinct with ⟨hnew, hrest⟩
      rcases List.mem_cons.1 hp with rfl | hp
      · have hothers : qs.filter (fun q => q.name == p.name) = [] := by
          rw [List.filter_eq_nil_iff]
          intro q hq heq
          exact hnew (List.mem_map.2 ⟨q, hq, beq_iff_eq.1 heq⟩)
        simp [hothers]
      · have hother : q.name ≠ p.name := fun heq =>
          hnew (List.mem_map.2 ⟨p, hp, heq.symm⟩)
        rw [List.filter_cons_of_neg (by simpa using hother)]
        exact ih hrest hp

theorem type?_bindings (spec : Spec) (values : Members) (name : String) :
    (Plan.bindings spec values).type? name =
      (declarations name spec.parameters).getLast?.map Prod.fst := by
  rw [Template.Bindings.type?_eq]
  simp [Plan.bindings, declarations, List.filter_map, Function.comp_def]

/-- The default a parameter list gives for a name comes from the declarations of the name. -/
theorem assigned_defaults (spec : Spec) (name : String) :
    Members.assigned name (spec.parameters.filterMap fun p => p.default.map (p.name, ·)) =
      (declarations name spec.parameters).filterMap Prod.snd := by
  unfold declarations
  induction spec.parameters with
  | nil => rfl
  | cons p ps ih =>
      by_cases hname : p.name = name
      · cases hdefault : p.default <;> simp_all [Members.assigned]
      · cases hdefault : p.default <;> simp_all [Members.assigned]

/-- The value of a variable in a run: the given one, or the default of its parameter. -/
theorem get?_values (spec : Spec) {given : Members} (hgiven : given.keys.Nodup) (name : String) :
    Members.get? name (spec.values given) =
      (Members.get? name given).or
        ((declarations name spec.parameters).filterMap Prod.snd).getLast? := by
  rw [values, Members.get?_insertAll, Members.get?_insertAll, Members.assigned_of_nodup hgiven,
    assigned_defaults]
  cases Members.get? name given <;> simp

/-- A run sees the values that are given for the references, and how these are declared. -/
theorem sameBindings_of_agree {given given' : Members} (hgiven : given.keys.Nodup)
    (hgiven' : given'.keys.Nodup)
    (hvalues : ∀ name ∈ spec.references, Members.get? name given = Members.get? name given')
    (hdeclared : ∀ name ∈ spec.references,
      declarations name spec.parameters = declarations name parameters) :
    SameBindings spec parameters (spec.values given)
      ((spec.withParameters parameters).values given') := by
  intro name hname
  -- a value is converted to its declared type, so both of them have to agree
  have htypes : (Plan.bindings spec (spec.values given)).type? name =
      (Plan.bindings (spec.withParameters parameters)
        ((spec.withParameters parameters).values given')).type? name := by
    rw [type?_bindings, type?_bindings, hdeclared name hname]
    rfl
  have hget : Members.get? name (Plan.bindings spec (spec.values given)).values =
      Members.get? name (Plan.bindings (spec.withParameters parameters)
        ((spec.withParameters parameters).values given')).values := by
    show Members.get? name (spec.values given) =
      Members.get? name ((spec.withParameters parameters).values given')
    rw [get?_values spec hgiven, get?_values _ hgiven', hvalues name hname, hdeclared name hname]
    rfl
  rw [Template.Bindings.value, Template.Bindings.value, htypes, hget]

end Spec

/-! ## Plans -/

namespace Plan

variable {spec : Spec} {parameters : List Parameter} {values values' : Members}

/-- Filling an expression of the spec looks only at what is referred to. -/
theorem filled_congr (h : spec.SameBindings parameters values values') {expr : String}
    (hexpr : expr ∈ spec.expressions) (path : String) :
    filled spec values expr path = filled (spec.withParameters parameters) values' expr path := by
  have hfill := Template.fill_congr
    (fun name hname => h name (List.mem_flatMap.2 ⟨expr, hexpr, hname⟩)) spec.input.dialect
  rw [filled, hfill]
  rfl

theorem Step.make_congr (h : spec.SameBindings parameters values values') {expr : String}
    (hexpr : expr ∈ spec.expressions) (path label : String) :
    Step.make spec values path label expr =
      Step.make (spec.withParameters parameters) values' path label expr := by
  rw [Step.make, filled_congr h hexpr]
  rfl

/-- So does making the steps of the filters. -/
theorem makeFilters_congr (h : spec.SameBindings parameters values values') {fs : List Filter}
    (hfs : ∀ f ∈ fs, f.expr ∈ spec.expressions) (i : Nat) :
    makeFilters spec values i fs = makeFilters (spec.withParameters parameters) values' i fs := by
  induction fs generalizing i with
  | nil => rfl
  | cons f fs ih =>
      rcases List.forall_mem_cons.1 hfs with ⟨hf, hrest⟩
      rw [makeFilters, makeFilters, Step.make_congr h hf, ih hrest]

/-- So does making the steps of the mappings. -/
theorem makeColumns_congr (h : spec.SameBindings parameters values values') {ms : List Mapping}
    (hms : ∀ m ∈ ms, m.expr ∈ spec.expressions) (i : Nat) :
    makeColumns spec values i ms = makeColumns (spec.withParameters parameters) values' i ms := by
  induction ms generalizing i with
  | nil => rfl
  | cons m ms ih =>
      rcases List.forall_mem_cons.1 hms with ⟨hm, hrest⟩
      rw [makeColumns, makeColumns, Step.make_congr h hm, ih hrest]

/-- A plan, or the failure to make one, depends on the values of the references alone. -/
theorem make_congr (h : spec.SameBindings parameters values values') :
    Plan.make spec values = Plan.make (spec.withParameters parameters) values' := by
  -- nothing but the root, the filters and the columns is filled
  have hroot : spec.input.root ∈ spec.expressions := List.mem_cons_self
  have hfilters : ∀ f ∈ spec.filters, f.expr ∈ spec.expressions := by
    intro f hf
    exact List.mem_cons_of_mem _ (List.mem_append_left _ (List.mem_map_of_mem hf))
  have hmappings : ∀ m ∈ spec.mappings, m.expr ∈ spec.expressions := by
    intro m hm
    exact List.mem_cons_of_mem _ (List.mem_append_right _ (List.mem_map_of_mem hm))
  rw [Plan.make, filled_congr h hroot, makeFilters_congr h hfilters, makeColumns_congr h hmappings]
  rfl

end Plan

/-! ## Runs -/

namespace Spec

variable {spec : Spec} {given given' : Members} {limits : Limits} {input : String}

/--
A run depends on the parameters and the given variables only through the bindings of the references.
-/
theorem transform_congr {parameters : List Parameter}
    (hflaws : (spec.withParameters parameters).shapeFlaws = spec.shapeFlaws)
    (h : SameBindings spec parameters (spec.values given)
      ((spec.withParameters parameters).values given')) :
    spec.transform input given limits =
      (spec.withParameters parameters).transform input given' limits := by
  have hevaluate : ∀ d, spec.evaluate d (spec.values given) =
      (spec.withParameters parameters).evaluate d
        ((spec.withParameters parameters).values given') := by
    intro d
    rw [evaluate, Plan.make_congr h]
    rfl
  -- the flaws are the only other use of the parameters
  have hrecords : spec.records input given limits =
      (spec.withParameters parameters).records input given' limits := by
    unfold records
    simp only [hflaws, hevaluate]
    rfl
  unfold transform
  rw [hrecords]
  rfl

/-- Two lists of variables that give the references the same values give the same run. -/
theorem transform_of_agree (hgiven : given.keys.Nodup) (hgiven' : given'.keys.Nodup)
    (h : ∀ name ∈ spec.references, Members.get? name given = Members.get? name given') :
    spec.transform input given limits = spec.transform input given' limits := by
  have hflaws : (spec.withParameters spec.parameters).shapeFlaws = spec.shapeFlaws := rfl
  exact transform_congr hflaws (sameBindings_of_agree hgiven hgiven' h fun _ _ => rfl)

/--
Only the variables that some expression refers to matter. Two lists of variables that give these the
same values, or leave the same of them out, give the same output or the same failure. So a variable
that nothing refers to can be given or not, the order of the variables does not count, and neither
does a parameter that nothing refers to, required or not, as long as the specification stays as
sound as it was.
-/
theorem only_references_matter (spec : Spec) (input : String) (limits : Limits) :
    (∀ given given' : Members, given.keys.Nodup → given'.keys.Nodup →
      (∀ name ∈ spec.references, Members.get? name given = Members.get? name given') →
        spec.transform input given limits = spec.transform input given' limits) ∧
    (∀ (given : Members) (name : String) (v : Json), given.keys.Nodup → name ∉ spec.references →
      spec.transform input (Members.insert name v given) limits =
        spec.transform input given limits) ∧
    (∀ given given' : Members, given.keys.Nodup → given.Perm given' →
      spec.transform input given limits = spec.transform input given' limits) ∧
    ∀ (parameters : List Parameter) (given : Members), given.keys.Nodup →
      (spec.withParameters parameters).shapeFlaws = spec.shapeFlaws →
      (∀ name ∈ spec.references,
        declarations name spec.parameters = declarations name parameters) →
        spec.transform input given limits =
          (spec.withParameters parameters).transform input given limits := by
  refine ⟨?_, ?_, ?_, ?_⟩
  · intro given given' hgiven hgiven' h
    exact transform_of_agree hgiven hgiven' h
  · intro given name v hgiven hname
    have hkeys : (Members.keys (Members.insert name v given)).Nodup := by
      rw [Members.keys_insert]
      by_cases hmem : name ∈ Members.keys given
      · rwa [if_pos hmem]
      · rw [if_neg hmem]
        exact List.Nodup.append hgiven (List.nodup_singleton name)
          (List.disjoint_singleton.2 hmem)
    refine transform_of_agree hkeys hgiven ?_
    intro other hother
    have hne : other ≠ name := fun heq => hname (heq ▸ hother)
    exact Members.get?_insert_of_ne hne v given
  · intro given given' hgiven hperm
    have hkeys : (Members.keys given').Nodup := (hperm.map Prod.fst).nodup hgiven
    refine transform_of_agree hgiven hkeys ?_
    intro name _
    exact Members.get?_of_perm hgiven hperm name
  · intro parameters given hgiven hflaws hdeclared
    exact transform_congr hflaws (sameBindings_of_agree hgiven hgiven (fun _ _ => rfl) hdeclared)

def townParameter : Parameter :=
  ⟨"town", .string, false, some (.string "Bergen")⟩

/-- The people in a town; a region is required, but nothing refers to it. -/
def townPeople : Spec where
  version := 1
  name := "people"
  input := ⟨.json, "."⟩
  output := ⟨.text, []⟩
  mappings := [⟨"name", "name", .string, none⟩]
  filters := [⟨none, "town == \x7b\x7btown\x7d\x7d"⟩]
  onMissing := .null
  parameters := [⟨"region", .string, true, none⟩, townParameter]

def twoTowns : String :=
  "[\x7b\"name\":\"Ana\",\"town\":\"Oslo\"\x7d,\x7b\"name\":\"Bo\",\"town\":\"Bergen\"\x7d]"

/-- An extra variable that nothing refers to, or one declaration less, changes nothing in a run. -/
theorem only_references_matter_of_townPeople :
    townPeople.transform twoTowns [("town", .string "Oslo")] .none = .ok "Ana" ∧
      townPeople.transform twoTowns [("region", .null), ("town", .string "Oslo")] .none =
        .ok "Ana" ∧
      (townPeople.withParameters [townParameter]).transform twoTowns [("town", .string "Oslo")]
        .none = .ok "Ana" := by
  have hrun : townPeople.transform twoTowns [("town", .string "Oslo")] .none = .ok "Ana" := by
    decide +kernel
  have hreferences : townPeople.references = ["town"] := by decide +kernel
  have hvalues : ∀ name ∈ townPeople.references,
      Members.get? name [("town", .string "Oslo")] =
        Members.get? name [("region", .null), ("town", .string "Oslo")] := by
    rw [hreferences, List.forall_mem_singleton]
    rfl
  have hdeclared : ∀ name ∈ townPeople.references,
      declarations name townPeople.parameters = declarations name [townParameter] := by
    rw [hreferences, List.forall_mem_singleton]
    rfl
  have hflaws : (townPeople.withParameters [townParameter]).shapeFlaws = townPeople.shapeFlaws := by
    decide +kernel
  rcases only_references_matter townPeople twoTowns .none with ⟨hagree, _, _, hparameters⟩
  refine ⟨hrun, ?_, ?_⟩
  · rw [← hrun]
    exact (hagree _ _ (by decide) (by decide) hvalues).symm
  · rw [← hrun]
    exact (hparameters _ _ (by decide) hflaws hdeclared).symm

end Spec

end Gleaner
