import Gleaner.Proofs.Text.Names
import Gleaner.Spec.Check
/-!
# The shape of a specification

The check before a run goes through a specification once and collects flaws. Here its verdict is
compared with the shape that a specification should have, said of all its parts at once:

* `Spec.WellShaped` is that shape;
* `Spec.flawsInOrder_eq_nil_iff`: a pass that remembers the names so far finds nothing exactly in
  a list of sound items whose names are pairwise distinct;
* `Spec.headerFlaws_eq_nil_iff` and its companions settle the parts of the check one by one;
* `Spec.shapeFlaws_agree_with_shape` is the verdict on whole specifications, and what the full check
  and the places in a text add to it.
-/

namespace Gleaner

/-! ## Declared types -/

/-- The kind of the values of a column type, unless it is the type of any value. -/
def ValueType.kind? : ValueType → Option Json.Kind
  | .string | .date => some .string
  | .number => some .number
  | .boolean => some .boolean
  | .any => none

/-- The kind of the values of a parameter type, unless it is the type of any value. -/
def ParameterType.kind? : ParameterType → Option Json.Kind
  | .string => some .string
  | .number => some .number
  | .boolean => some .boolean
  | .any => none

theorem ValueType.acceptsDefault_iff {type : ValueType} {v : Json} :
    type.acceptsDefault v = true ↔ ∀ k ∈ type.kind?, v.kind = k := by
  cases type <;> simp [acceptsDefault, kind?]

theorem ParameterType.accepts_iff {type : ParameterType} {v : Json} :
    type.accepts v = true ↔ ∀ k ∈ type.kind?, v.kind = k := by
  cases type <;> simp [accepts, kind?]

/-- A name is no blank text. -/
theorem Text.isBlankText_of_isName {s : String} (h : Text.isName s = true) :
    Text.isBlankText s = false := by
  unfold Text.isName at h
  unfold Text.isBlankText
  cases hcs : s.toList with
  | nil =>
      rw [hcs] at h
      cases h
  | cons c rest =>
      -- the first character of a name is printable
      simp only [hcs, Text.isNameChars, Bool.and_eq_true] at h
      have hcode := Text.toNat_of_isNameStart h.1
      have hblank := Text.isBlank_eq_false (c := c) (by omega) (by omega)
      simp [hblank]

namespace Spec

variable {spec : Spec} {α : Type}

/-! ## The shape -/

/-- An expression that says something, and that can be read unless it has holes. -/
@[mk_iff]
structure SoundExpr (dialect : Dialect) (expr : String) : Prop where
  stated : Text.isBlankText expr = false
  readable : Template.hasHoles expr = true ∨ ∃ x, Expression.read dialect expr = .ok x

/-- A root that says something, and that can select rows unless it has holes. -/
@[mk_iff]
structure SoundRoot (dialect : Dialect) (root : String) : Prop where
  stated : Text.isBlankText root = false
  readable : Template.hasHoles root = true ∨ Expression.checkRoot dialect root = .ok ()

/-- A mapping by itself: a name, an expression, and a default of the declared type, if any. -/
structure SoundMapping (dialect : Dialect) (m : Mapping) : Prop where
  named : Text.isBlankText m.name = false
  expr : SoundExpr dialect m.expr
  default : ∀ v ∈ m.default, ∀ k ∈ m.type.kind?, v.kind = k

/-- A parameter by itself: a name, and a default of the declared type, if any. -/
structure SoundParameter (p : Parameter) : Prop where
  named : Text.isName p.name = true
  default : ∀ v ∈ p.default, ∀ k ∈ p.type.kind?, v.kind = k

/-- What a specification should look like, whatever its output options are. -/
structure WellShaped (spec : Spec) : Prop where
  version : spec.version = 1
  name : Text.isName spec.name = true
  root : SoundRoot spec.input.dialect spec.input.root
  has_mapping : spec.mappings ≠ []
  mappings : ∀ m ∈ spec.mappings, SoundMapping spec.input.dialect m
  columns_distinct : spec.columnNames.Nodup
  filters : ∀ f ∈ spec.filters, SoundExpr spec.input.dialect f.expr
  parameters : ∀ p ∈ spec.parameters, SoundParameter p
  parameters_distinct : (spec.parameters.map (·.name)).Nodup

/-! ## The forms of checks -/

/-- A text that has to say something, and that is looked into unless it has holes. -/
theorem readingFlaws_eq_nil_iff {s : String} {missing : Flaw} {more : List Flaw} {readable : Prop}
    (hmore : more = [] ↔ readable) :
    (if Text.isBlankText s then [missing] else if Template.hasHoles s then [] else more) = [] ↔
      Text.isBlankText s = false ∧ (Template.hasHoles s = true ∨ readable) := by
  cases Text.isBlankText s with
  | true => simp
  | false => cases Template.hasHoles s <;> simp [hmore]

/-- A name that has to be good, and new after some other names. -/
theorem nameFlaws_eq_nil_iff {bad : Bool} {invalid duplicate : Flaw} {before : List String}
    {name : String} :
    (if bad then [invalid] else if before.contains name then [duplicate] else []) = [] ↔
      bad = false ∧ name ∉ before := by
  cases bad <;> simp

/-- A default, if there is one, that has to be accepted. -/
theorem defaultFlaws_eq_nil_iff {accepts : Json → Bool} {invalid : Flaw}
    (default : Option Json) :
    (match default with
      | some v => if accepts v then [] else [invalid]
      | none => []) = [] ↔ ∀ v ∈ default, accepts v = true := by
  cases default <;> simp

/--
A pass that remembers the names of the items so far, where an item has no flaw when its name is new
and the item itself is sound.
-/
theorem flawsInOrder_eq_nil_iff {name : α → String} {flaws : List String → Nat → α → List Flaw}
    {sound : α → Prop}
    (hflaws : ∀ before i item, flaws before i item = [] ↔ name item ∉ before ∧ sound item)
    (before : List String) (i : Nat) (items : List α) :
    flawsInOrder name flaws before i items = [] ↔
      (∀ item ∈ items, name item ∉ before) ∧ (items.map name).Nodup ∧
        ∀ item ∈ items, sound item := by
  -- the names so far grow along the list, so the induction is over every such list of names
  induction items generalizing before i with
  | nil => simp [flawsInOrder]
  | cons first rest ih =>
      have hrest := ih (name first :: before) (i + 1)
      simp only [flawsInOrder, List.append_eq_nil_iff, hflaws, hrest]
      constructor
      -- that the rest is apart from the first name is what makes the names distinct
      · rintro ⟨⟨hnew, hsound⟩, hapart, hdistinct, hall⟩
        refine ⟨?_, ?_, ?_⟩
        · intro item hitem
          rcases List.mem_cons.1 hitem with rfl | hmem
          · exact hnew
          · exact fun hbefore => hapart item hmem (List.mem_cons_of_mem _ hbefore)
        · refine List.nodup_cons.2 ⟨?_, hdistinct⟩
          intro hname
          rcases List.mem_map.1 hname with ⟨item, hmem, heq⟩
          exact hapart item hmem (heq ▸ List.mem_cons_self)
        · exact List.forall_mem_cons.2 ⟨hsound, hall⟩
      · rintro ⟨hapart, hdistinct, hall⟩
        rcases List.forall_mem_cons.1 hapart with ⟨hnew, hnews⟩
        rcases List.forall_mem_cons.1 hall with ⟨hsound, hsounds⟩
        rcases List.nodup_cons.1 hdistinct with ⟨hfirst, hdistinct⟩
        refine ⟨⟨hnew, hsound⟩, ?_, hdistinct, hsounds⟩
        intro item hmem hbefore
        rcases List.mem_cons.1 hbefore with heq | hold
        · exact hfirst (heq ▸ List.mem_map_of_mem hmem)
        · exact hnews item hmem hold

/-- A pass for which the names make no difference. -/
theorem flawsInOrder_eq_nil_iff_forall {name : α → String}
    {flaws : List String → Nat → α → List Flaw} {sound : α → Prop}
    (hflaws : ∀ before i item, flaws before i item = [] ↔ sound item)
    (before : List String) (i : Nat) (items : List α) :
    flawsInOrder name flaws before i items = [] ↔ ∀ item ∈ items, sound item := by
  induction items generalizing before i with
  | nil => simp [flawsInOrder]
  | cons first rest ih =>
      simp only [flawsInOrder, List.append_eq_nil_iff, hflaws, ih, List.forall_mem_cons]

/-! ## The parts of the check -/

/-- The header has no flaws if the version is one and the name is a name. -/
theorem headerFlaws_eq_nil_iff :
    spec.headerFlaws = [] ↔ spec.version = 1 ∧ Text.isName spec.name = true := by
  have hversion : (if spec.version = supportedVersion then []
      else [Flaw.inPart .wrongVersion "version"]) = [] ↔ spec.version = 1 := by
    by_cases h : spec.version = 1 <;> simp [supportedVersion, h]
  unfold headerFlaws
  rw [List.append_eq_nil_iff, hversion]
  refine and_congr Iff.rfl ?_
  -- a blank name has a flaw of its own, and it is no name either
  cases hname : Text.isName spec.name with
  | true => simp [Text.isBlankText_of_isName hname]
  | false => cases Text.isBlankText spec.name <;> simp

/-- The input has no flaws if its root is sound. -/
theorem inputFlaws_eq_nil_iff :
    spec.inputFlaws = [] ↔ SoundRoot spec.input.dialect spec.input.root := by
  unfold inputFlaws
  rw [soundRoot_iff]
  apply readingFlaws_eq_nil_iff
  cases Expression.checkRoot spec.input.dialect spec.input.root <;> simp

/-- An expression has no flaws if it is sound. -/
theorem exprFlaws_eq_nil_iff {dialect : Dialect} {expr path : String} :
    exprFlaws dialect expr path = [] ↔ SoundExpr dialect expr := by
  unfold exprFlaws
  rw [soundExpr_iff]
  apply readingFlaws_eq_nil_iff
  cases Expression.read dialect expr <;> simp

/-- A mapping has no flaws if its column is new and it is sound by itself. -/
theorem mappingFlaws_eq_nil_iff {dialect : Dialect} (before : List String) (i : Nat) (m : Mapping) :
    mappingFlaws dialect before i m = [] ↔ m.name ∉ before ∧ SoundMapping dialect m := by
  unfold mappingFlaws
  rw [List.append_eq_nil_iff, List.append_eq_nil_iff, nameFlaws_eq_nil_iff, exprFlaws_eq_nil_iff]
  refine (and_congr Iff.rfl (defaultFlaws_eq_nil_iff m.default)).trans ?_
  simp only [ValueType.acceptsDefault_iff]
  constructor
  · rintro ⟨⟨⟨hnamed, hnew⟩, hexpr⟩, hdefault⟩
    exact ⟨hnew, hnamed, hexpr, hdefault⟩
  · rintro ⟨hnew, hnamed, hexpr, hdefault⟩
    exact ⟨⟨⟨hnamed, hnew⟩, hexpr⟩, hdefault⟩

/-- A parameter has no flaws if its name is new and it is sound by itself. -/
theorem parameterFlaws_eq_nil_iff (before : List String) (i : Nat) (p : Parameter) :
    parameterFlaws before i p = [] ↔ p.name ∉ before ∧ SoundParameter p := by
  unfold parameterFlaws
  rw [List.append_eq_nil_iff, nameFlaws_eq_nil_iff, Bool.not_eq_false']
  refine (and_congr Iff.rfl (defaultFlaws_eq_nil_iff p.default)).trans ?_
  simp only [ParameterType.accepts_iff]
  constructor
  · rintro ⟨⟨hnamed, hnew⟩, hdefault⟩
    exact ⟨hnew, hnamed, hdefault⟩
  · rintro ⟨hnew, hnamed, hdefault⟩
    exact ⟨⟨hnamed, hnew⟩, hdefault⟩

/-- The mappings have no flaws if there are some, they are sound, and their columns differ. -/
theorem mappingsFlaws_eq_nil_iff :
    spec.mappingsFlaws = [] ↔
      spec.mappings ≠ [] ∧ spec.columnNames.Nodup ∧
        ∀ m ∈ spec.mappings, SoundMapping spec.input.dialect m := by
  have hpass := flawsInOrder_eq_nil_iff (@mappingFlaws_eq_nil_iff spec.input.dialect) [] 0
    spec.mappings
  unfold mappingsFlaws
  by_cases hempty : spec.mappings = []
  · simp [hempty]
  · have hsome : ¬ spec.mappings.isEmpty = true := by
      intro hnil
      exact hempty (List.isEmpty_iff.1 hnil)
    rw [if_neg hsome, hpass]
    simp [hempty, columnNames]

/-- The filters have no flaws if their expressions are sound. -/
theorem filtersFlaws_eq_nil_iff :
    spec.filtersFlaws = [] ↔ ∀ f ∈ spec.filters, SoundExpr spec.input.dialect f.expr := by
  apply flawsInOrder_eq_nil_iff_forall
  intro _ i f
  exact exprFlaws_eq_nil_iff

theorem parametersFlaws_eq_nil_iff :
    spec.parametersFlaws = [] ↔
      (spec.parameters.map (·.name)).Nodup ∧ ∀ p ∈ spec.parameters, SoundParameter p := by
  refine (flawsInOrder_eq_nil_iff parameterFlaws_eq_nil_iff [] 0 spec.parameters).trans ?_
  simp

/-! ## The whole check -/

/-- A spec has no flaws of shape exactly if it is well shaped. -/
theorem shapeFlaws_eq_nil_iff : spec.shapeFlaws = [] ↔ spec.WellShaped := by
  simp only [shapeFlaws, List.append_eq_nil_iff, headerFlaws_eq_nil_iff, inputFlaws_eq_nil_iff,
    mappingsFlaws_eq_nil_iff, filtersFlaws_eq_nil_iff, parametersFlaws_eq_nil_iff]
  constructor
  · rintro ⟨⟨⟨⟨⟨hversion, hname⟩, hroot⟩, hsome, hdistinct, hmappings⟩, hfilters⟩, hnames,
      hparameters⟩
    exact ⟨hversion, hname, hroot, hsome, hmappings, hdistinct, hfilters, hparameters, hnames⟩
  · intro h
    exact ⟨⟨⟨⟨⟨h.version, h.name⟩, h.root⟩, h.has_mapping, h.columns_distinct, h.mappings⟩,
      h.filters⟩, h.parameters_distinct, h.parameters⟩

end Spec

/-- What a flaw reports wherever it stands: the code, the wording, and the part concerned. -/
def Flaw.report (f : Flaw) : String × String × Option String :=
  (f.cause.code, f.cause.message, f.path)

theorem Flaw.map_report_located (locator : Locator) (flaws : List Flaw) :
    (flaws.map (Flaw.located locator)).map Flaw.report = flaws.map Flaw.report := by
  rw [List.map_map]
  rfl

namespace Spec

/--
The check before a run passes exactly the specifications of the right shape. The full check of a
specification finds the same flaws and then those of the output; the full check of a text finds what
that of its specification does, and only adds the places.
-/
theorem shapeFlaws_agree_with_shape (spec : Spec) :
    (spec.shapeFlaws = [] ↔ spec.WellShaped) ∧ spec.shapeFlaws <+: spec.flaws ∧
      ∀ source, read? source = some spec →
        (ofText source).mapError (List.map Flaw.report) =
          if spec.flaws = [] then .ok spec else .error (spec.flaws.map Flaw.report) := by
  refine ⟨shapeFlaws_eq_nil_iff, List.prefix_append _ _, ?_⟩
  intro source hread
  unfold ofText
  rw [hread]
  by_cases hflaws : spec.flaws = []
  · simp [hflaws, Except.mapError]
  · have hreport := Flaw.map_report_located (.ofText source) spec.flaws
    simp [hflaws, Except.mapError, hreport]

/-- A specification of a version that there is not, and without mappings. -/
def unmapped : Spec where
  version := 2
  name := "n"
  input := ⟨.json, "."⟩
  output := ⟨.json, []⟩
  mappings := []
  filters := []
  onMissing := .null
  parameters := []

def unmappedText : String :=
  "\x7bversion: 2, name: n, input: \x7btype: json, root: .\x7d, output: \x7btype: json\x7d\x7d"

/-- A spec of another version without mappings has both reported, in this order. -/
theorem shapeFlaws_agree_with_shape_of_unmapped :
    read? unmappedText = some unmapped ∧
      (ofText unmappedText).mapError (List.map Flaw.report) =
        .error [("InvalidVersion", "version must be 1", some "version"),
          ("MissingMappings", "mappings must contain at least one mapping", some "mappings")] := by
  have hread : read? unmappedText = some unmapped := by cbv
  have hflaws : unmapped.flaws =
      [.inPart .wrongVersion "version", .inPart .missingMappings "mappings"] := by
    decide +kernel
  have htext := (shapeFlaws_agree_with_shape unmapped).2.2 unmappedText hread
  rw [hflaws, if_neg (List.cons_ne_nil _ _)] at htext
  exact ⟨hread, htext⟩

end Spec
end Gleaner
