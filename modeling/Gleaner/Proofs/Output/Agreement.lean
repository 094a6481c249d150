import Gleaner.Proofs.Sequencing
import Gleaner.Proofs.Spec.Shape
import Gleaner.Transform
/-!
# Checking options and rendering

Output options are looked at twice: `Spec.outputFlaws` checks them when a specification is written,
`Output.render` reads them when rows are written. The two have orders of their own, so their results
are compared by one relation:

* `Output.Agrees flaws r` says that the reading `r` succeeds if there are no flaws, and otherwise
  fails with the kind of failure of an unsupported option;
* `Agrees.bind` and `Agrees.perm` combine readings, in whatever order the checks come;
* `Spec.agrees_render` is the relation for a whole specification;
* `outputFlaws_agree_with_render` is what follows for checking and for running a text.
-/

namespace Gleaner

open Output

variable {α β : Type}

/-! ## The relation between a check and a reading -/

/-- A reading that succeeds without flaws, and is refused as an unsupported option otherwise. -/
inductive Output.Agrees : List Flaw → Except Failure α → Prop where
  | accepted (a : α) : Agrees [] (.ok a)
  | refused {flaws : List Flaw} {f : Failure} :
      flaws ≠ [] → f.kind = .unsupportedOutputOption → Agrees flaws (.error f)

namespace Output.Agrees

/-- The order of the flaws plays no part. -/
theorem perm {flaws flaws' : List Flaw} {r : Except Failure α}
    (h : Agrees flaws r) (p : flaws.Perm flaws') : Agrees flaws' r := by
  cases h with
  | accepted a =>
      have hnil : flaws' = [] := p.symm.eq_nil
      rw [hnil]
      exact .accepted a
  | refused hne hkind =>
      refine .refused ?_ hkind
      intro hnil
      rw [hnil] at p
      exact hne p.eq_nil

/-- The second reading is looked at only when the first succeeds; its flaws count anyway. -/
theorem bind {flaws more : List Flaw} {r : Except Failure α} {next : α → Except Failure β}
    (h : Agrees flaws r) (hnext : ∀ a, Agrees more (next a)) :
    Agrees (flaws ++ more) (r >>= next) := by
  cases h with
  | accepted a =>
      exact hnext a
  | refused hne hkind =>
      refine .refused ?_ hkind
      intro hnil
      exact hne (List.append_eq_nil_iff.1 hnil).1

/-- Where the check finds no flaw, rendering succeeds. -/
theorem exists_ok {r : Except Failure α} (h : Agrees [] r) : ∃ a, r = .ok a := by
  cases h with
  | accepted a => exact ⟨a, rfl⟩
  | refused hne _ => exact absurd rfl hne

theorem flaws_nil {flaws : List Flaw} {a : α} (h : Agrees flaws (.ok a)) : flaws = [] := by
  cases h with
  | accepted a => rfl

/-- Where the check finds a flaw, rendering fails for an option. -/
theorem exists_error {flaws : List Flaw} {r : Except Failure α} (h : Agrees flaws r)
    (hne : flaws ≠ []) : ∃ f, r = .error f ∧ f.kind = .unsupportedOutputOption := by
  cases h with
  | accepted a => exact absurd rfl hne
  | refused _ hkind => exact ⟨_, rfl, hkind⟩

end Output.Agrees

/-! ## Single options -/

namespace Spec

/-- A flag of the options is refused before a run exactly if rendering would refuse it. -/
theorem agrees_boolOption (options : Members) (key : String) (default : Bool) :
    Agrees (boolFlaws options key) (boolOption options key default) := by
  unfold boolFlaws boolOption
  cases Members.get? key options with
  | none => exact .accepted _
  | some v =>
      cases v with
      | null => exact .accepted _
      | bool b => exact .accepted _
      | _ => exact .refused (by simp) rfl

/-- The delimiter is refused before a run exactly if rendering would refuse it. -/
theorem agrees_delimiter (options : Members) :
    Agrees (delimiterFlaws options) (delimiter options) := by
  unfold delimiterFlaws delimiter textOption
  cases Members.get? "delimiter" options with
  | none => exact .accepted ','
  | some v =>
      cases v with
      | null => exact .accepted ','
      | string s =>
          -- a delimiter is exactly one character
          simp only [bind, Except.bind]
          cases s.toList with
          | nil => exact .refused (by simp) rfl
          | cons c cs =>
              cases cs with
              | nil =>
                  by_cases hc : isDelimiter c
                  · simpa [hc] using Agrees.accepted c
                  · simpa [hc] using Agrees.refused (by simp) rfl
              | cons d cs => exact .refused (by simp) rfl
      | _ => exact .refused (by simp) rfl

/-- A default that is itself the name of a tag; the options have no other kind. -/
theorem agrees_tagOption (options : Members) (key default : String)
    (hdefault : isTagName default = true) :
    Agrees (tagFlaws options key) (tagOption options key default) := by
  unfold tagFlaws tagOption textOption
  cases Members.get? key options with
  | none => simpa [hdefault, bind, Except.bind] using Agrees.accepted default
  | some v =>
      cases v with
      | null => simpa [hdefault, bind, Except.bind] using Agrees.accepted default
      | string s =>
          by_cases hs : isTagName s
          · simpa [hs, bind, Except.bind] using Agrees.accepted s
          · simpa [hs, bind, Except.bind] using Agrees.refused (by simp) rfl
      | _ => exact .refused (by simp) rfl

/-! ## Columns -/

/-- With every column named, the check finds no bad column exactly if rendering finds none. -/
theorem columnFlaws_eq_nil_iff (columns : List String) (named : ∀ name ∈ columns, name ≠ "") :
    columnFlaws columns = [] ↔ badColumn? columns = none := by
  have hzip : ∀ entry ∈ columns.zipIdx, entry.1 ≠ "" := by
    intro entry hentry
    exact named _ (List.fst_mem_of_mem_zipIdx hentry)
  simp only [columnFlaws, badColumn?, List.flatMap_eq_nil_iff, List.find?_eq_none]
  constructor
  · intro h entry hentry
    have hflaw := h entry hentry
    have hname := hzip entry hentry
    simpa [hname] using hflaw
  · intro h entry hentry
    have htag := h entry hentry
    simp_all

/-- The check of the markup options and column names agrees with rendering markup. -/
theorem agrees_xml (rows : List Record) (options : Members) (columns : List String)
    (named : ∀ name ∈ columns, name ≠ "") :
    Agrees (boolFlaws options "declaration" ++ tagFlaws options "root_tag" ++
      tagFlaws options "row_tag" ++ columnFlaws columns) (xml rows options columns) := by
  have hread :
      Agrees (tagFlaws options "root_tag" ++ (tagFlaws options "row_tag" ++
        (boolFlaws options "declaration" ++ columnFlaws columns))) (xml rows options columns) := by
    refine (agrees_tagOption options "root_tag" "rows" (by decide)).bind fun rootTag => ?_
    refine (agrees_tagOption options "row_tag" "row" (by decide)).bind fun rowTag => ?_
    refine (agrees_boolOption options "declaration" false).bind fun declaration => ?_
    cases hbad : badColumn? columns with
    | none =>
        rw [(columnFlaws_eq_nil_iff columns named).2 hbad]
        exact .accepted _
    | some bad =>
        refine .refused ?_ rfl
        intro hnil
        rw [(columnFlaws_eq_nil_iff columns named).1 hnil] at hbad
        cases hbad
  refine hread.perm ?_
  -- The declaration is checked first and read third.
  simp only [← List.append_assoc]
  refine List.Perm.append_right _ ?_
  refine (List.perm_append_comm).trans ?_
  simp [List.append_assoc]

/-- The check of the options for delimited text agrees with rendering delimited text. -/
theorem agrees_csv (rows : List Record) (options : Members) (columns : List String) :
    Agrees (boolFlaws options "header" ++ delimiterFlaws options) (csv rows options columns) := by
  have hread :
      Agrees (delimiterFlaws options ++ (boolFlaws options "header" ++ []))
        (csv rows options columns) := by
    refine (agrees_delimiter options).bind fun separator => ?_
    refine (agrees_boolOption options "header" true).bind fun header => ?_
    exact .accepted _
  exact hread.perm (by simpa using List.perm_append_comm)

/-- Plain text takes one column, before a run as in rendering. -/
theorem agrees_plain (rows : List Record) (spec : Spec) (hcols : spec.mappings ≠ []) :
    Agrees (if 1 < spec.mappings.length then [Flaw.inPart .severalTextColumns "mappings"] else [])
      (plain rows spec.columnNames) := by
  have hpos : 0 < spec.mappings.length := List.length_pos_iff.2 hcols
  have hlen : spec.columnNames.length = spec.mappings.length := by
    simp [columnNames]
  by_cases hone : spec.mappings.length = 1
  · simpa [plain, hlen, hone] using Agrees.accepted _
  · have hmany : 1 < spec.mappings.length := by omega
    simp only [plain, hlen, hone, hmany, if_true, if_false]
    exact .refused (by simp) rfl

/-! ## Whole specifications -/

/-- The output part of the check agrees with rendering any rows, whatever the format. -/
theorem agrees_render {spec : Spec} (h : spec.shapeFlaws = []) (rows : List Record) :
    Agrees spec.outputFlaws (render rows spec.output spec.columnNames) := by
  have hshape := shapeFlaws_eq_nil_iff.1 h
  -- the check of tag names passes over empty ones, and a blank name is a flaw of the shape
  have hnamed : ∀ name ∈ spec.columnNames, name ≠ "" := by
    intro name hname hempty
    rcases List.mem_map.1 hname with ⟨m, hm, rfl⟩
    have hblank := (hshape.mappings m hm).named
    rw [hempty] at hblank
    cases hblank
  unfold outputFlaws render
  cases spec.output.format with
  | csv => exact agrees_csv rows _ _
  | json => exact .accepted _
  | xml => exact agrees_xml rows _ _ hnamed
  | text => exact agrees_plain rows spec hshape.has_mapping

theorem flaws_eq_outputFlaws {spec : Spec} (h : spec.shapeFlaws = []) :
    spec.flaws = spec.outputFlaws := by
  simp [flaws, h]

/-- A run that succeeds is of a spec without flaws of shape, and has rendered some rows. -/
theorem shapeFlaws_nil_of_transform {spec : Spec} {input : String} {given : Members}
    {limits : Limits} {out : String} (h : spec.transform input given limits = .ok out) :
    spec.shapeFlaws = [] ∧ ∃ rows, render rows spec.output spec.columnNames = .ok out := by
  rcases Except.bind_eq_ok_iff.1 h with ⟨rows, hrows, hrender⟩
  refine ⟨?_, rows, hrender⟩
  unfold records at hrows
  cases hshape : spec.shapeFlaws with
  | nil => rfl
  | cons flaw more =>
      simp [hshape] at hrows

/-- A run that succeeds is of a spec without flaws. -/
theorem flaws_nil_of_transform {spec : Spec} {input : String} {given : Members}
    {limits : Limits} {out : String} (h : spec.transform input given limits = .ok out) :
    spec.flaws = [] := by
  rcases shapeFlaws_nil_of_transform h with ⟨hshape, rows, hrender⟩
  have hagrees := agrees_render hshape rows
  rw [hrender] at hagrees
  rw [flaws_eq_outputFlaws hshape]
  exact hagrees.flaws_nil

/-- A spec is accepted exactly if it can be read and has no flaws. -/
theorem ofText_eq_ok_iff (source : String) (spec : Spec) :
    Spec.ofText source = .ok spec ↔ Spec.read? source = some spec ∧ spec.flaws = [] := by
  unfold Spec.ofText
  cases Spec.read? source with
  | none => simp
  | some found =>
      by_cases hflaws : found.flaws = []
      · simp only [hflaws, List.isEmpty_nil, if_true, Except.ok.injEq, Option.some.injEq]
        constructor
        · intro heq
          exact ⟨heq, heq ▸ hflaws⟩
        · intro h
          exact h.1
      · simp only [List.isEmpty_iff, hflaws, if_false, reduceCtorEq, Option.some.injEq, false_iff]
        rintro ⟨heq, hnil⟩
        exact hflaws (heq ▸ hnil)

end Spec

/--
A transformation from the spec's text succeeds exactly if the text reads as a spec whose run does.
-/
theorem Transform.ofText_eq_ok_iff (source input : String) (given : Members) (limits : Limits)
    (out : String) :
    Transform.ofText source input given limits = .ok out ↔
      ∃ spec, Spec.read? source = some spec ∧ spec.transform input given limits = .ok out := by
  constructor
  · intro h
    rcases Except.bind_eq_ok_iff.1 h with ⟨spec, hspec, hout⟩
    rw [Except.mapError_eq_ok_iff, Spec.ofText_eq_ok_iff] at hspec
    exact ⟨spec, hspec.1, hout⟩
  · rintro ⟨spec, hread, hout⟩
    refine Except.bind_eq_ok_iff.2 ⟨spec, ?_, hout⟩
    rw [Except.mapError_eq_ok_iff, Spec.ofText_eq_ok_iff]
    exact ⟨hread, Spec.flaws_nil_of_transform hout⟩

/--
For a specification of the right shape, the check of the output options passes exactly when every
list of rows can be rendered, and otherwise none can, the empty one included. So the full check of a
text refuses nothing that would have run.
-/
theorem outputFlaws_agree_with_render :
    (∀ spec : Spec, spec.shapeFlaws = [] →
      (spec.flaws = [] ↔
        ∀ rows, ∃ out, render rows spec.output spec.columnNames = .ok out) ∧
      (spec.flaws ≠ [] →
        ∀ rows, ∃ f, render rows spec.output spec.columnNames = .error f ∧
          f.kind = .unsupportedOutputOption)) ∧
    ∀ (source input : String) (given : Members) (limits : Limits) (out : String),
      Transform.ofText source input given limits = .ok out ↔
        ∃ spec, Spec.read? source = some spec ∧ spec.transform input given limits = .ok out := by
  refine ⟨?_, Transform.ofText_eq_ok_iff⟩
  intro spec hshape
  rw [Spec.flaws_eq_outputFlaws hshape]
  have hfails : spec.outputFlaws ≠ [] →
      ∀ rows, ∃ f, render rows spec.output spec.columnNames = .error f ∧
        f.kind = .unsupportedOutputOption := by
    intro hne rows
    exact (Spec.agrees_render hshape rows).exists_error hne
  refine ⟨⟨?_, ?_⟩, hfails⟩
  · intro hnil rows
    have hagrees := Spec.agrees_render hshape rows
    rw [hnil] at hagrees
    exact hagrees.exists_ok
  · -- one list of rows is enough, since the options are read whatever the rows are
    intro hall
    rcases hall [] with ⟨out, hout⟩
    have hagrees := Spec.agrees_render hshape []
    rw [hout] at hagrees
    exact hagrees.flaws_nil

def Spec.delimited (delimiter : String) : Spec where
  version := 1
  name := "staff"
  input := ⟨.json, "."⟩
  output := ⟨.csv, [("delimiter", .string delimiter)]⟩
  mappings := [⟨"id", "id", .number, none⟩, ⟨"town", "town", .string, none⟩]
  filters := []
  onMissing := .null
  parameters := []

def Spec.semicolonText : String :=
  "\x7bversion: 1, name: staff, input: \x7btype: json, root: .\x7d, " ++
    "output: \x7btype: csv, options: \x7bdelimiter: ';'\x7d\x7d, " ++
    "mappings: [\x7bname: id, expr: id, type: number\x7d, \x7bname: town, expr: town\x7d]\x7d"

def onePerson : String :=
  "[\x7b\"id\": 7, \"town\": \"Oslo\"\x7d]"

/-- A delimiter of one character is written, also from the text; one of two is refused. -/
theorem outputFlaws_agree_with_render_of_delimited :
    (Spec.delimited ";").flaws = [] ∧
      (∀ rows, ∃ out, render rows (Spec.delimited ";").output (Spec.delimited ";").columnNames =
        .ok out) ∧
      (Spec.delimited "::").shapeFlaws = [] ∧ (Spec.delimited "::").flaws ≠ [] ∧
      (∀ rows, ∃ f,
        render rows (Spec.delimited "::").output (Spec.delimited "::").columnNames = .error f ∧
          f.kind = .unsupportedOutputOption) ∧
      Transform.ofText Spec.semicolonText onePerson [] .none = .ok "id;town\n7;Oslo" := by
  rcases outputFlaws_agree_with_render with ⟨hchecks, htexts⟩
  have hsound : (Spec.delimited ";").flaws = [] := by decide +kernel
  have hshape : (Spec.delimited "::").shapeFlaws = [] := by decide +kernel
  have hflaws : (Spec.delimited "::").flaws ≠ [] := by decide +kernel
  have hrun : (Spec.read? Spec.semicolonText).map (·.transform onePerson [] .none) =
      some (.ok "id;town\n7;Oslo") := by
    decide +kernel
  exact ⟨hsound, (hchecks _ (List.append_eq_nil_iff.1 hsound).1).1.1 hsound, hshape, hflaws,
    (hchecks _ hshape).2 hflaws, (htexts _ _ _ _ _).2 (Option.map_eq_some_iff.1 hrun)⟩

end Gleaner
