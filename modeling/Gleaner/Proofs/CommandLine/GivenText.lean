import Gleaner.CommandLine.Run
import Gleaner.Proofs.Json.ReadText
import Gleaner.Proofs.Json.StringBody
import Gleaner.Proofs.Plan.References
import Gleaner.Proofs.Query.ValueQuery
import Gleaner.Proofs.Spec.Shape
import Gleaner.Proofs.Template.Segments
import Gleaner.Proofs.Text.Ends
import Gleaner.Proofs.Text.Names
/-!
# Texts given to string parameters

A variable that is given as an argument holds the value that its text is in JSON, or the text itself
if it is no JSON. A parameter of type string turns a number or a truth value back into text, and
that is the usual text of the value, not the one that was typed.

* `receivedText` is the text that the parameter receives, and `receivedText_eq_self_iff` says when
  it is the typed one;
* `readVariable_argument`, `value_of_given`: a variable on its way from the argument to the holes of
  the expressions;
* `Template.Filled.text_of_outside`: a hole that no double quotes enclose takes the value as JSON;
* `string_parameter_receives_text` puts the steps together.
-/

namespace Gleaner

/-! ## Filling with strings -/

namespace Template

/-- In a query, a hole that no double quotes enclose is filled with its value as JSON. -/
theorem Filled.text_of_outside {b : Bindings} {last : List Char}
    {items front more : List (Segment × List Char)} {seg : Segment} {text : List Char} {v : Json}
    (h : Filled .json b last items) (hitems : items = front ++ (seg, text) :: more)
    (hvalue : b.value seg.name = .ok v)
    (hquote : seg.quote? (sourceText more last) ≠ some '"') : text = v.compact.toList := by
  induction front generalizing items with
  | nil =>
      subst hitems
      obtain ⟨-, ⟨w, hw, htext⟩, -⟩ := h
      cases hvalue.symm.trans hw
      rw [htext, rendering, jsonLiteral, if_neg hquote]
  | cons item front ih =>
      subst hitems
      exact ih h.2.2 rfl

end Template

/-- The literal of a string denotes the string: read as JSON, and run as a query. -/
theorem denotes_compact_string (t : String) :
    Json.readString? (Json.string t).compact.toList = some t ∧
      ∃ q, Query.read (Json.string t).compact = .ok q ∧
        ∀ input, q.eval input = .ok [.string t] := by
  have hrange : (Json.string t).NumbersInRange := by
    intro n hn
    simp [Json.everyValue] at hn
  have hplain : ¬ (Json.string t).HoldsObject := by
    rintro ⟨members, hmem⟩
    simp [Json.everyValue] at hmem
  refine ⟨?_, _, Query.read_compact hrange hplain, Query.eval_valueQuery hplain⟩
  rw [Template.compact_string, Json.readString?_escaped, String.ofList_toList]

namespace CommandLine

/-! ## The text that is received -/

/-- The text that a parameter of type string receives for a text that is typed. -/
def receivedText (typed : String) : String :=
  match Json.read? typed with
  | some v => v.text
  | none => typed

/-- A text that is no JSON, or that of a number or of a truth value. -/
def IsPlainText (typed : String) : Prop :=
  ∀ v, Json.read? typed = some v → (∃ n, v = .number n) ∨ ∃ b, v = .bool b

/-- A text is received as typed exactly if it is no JSON, or the text of its own value. -/
theorem receivedText_eq_self_iff (typed : String) :
    receivedText typed = typed ↔ ∀ v, Json.read? typed = some v → v.text = typed := by
  unfold receivedText
  cases Json.read? typed with
  | none => simp
  | some v => simp

/-- The value that an argument gives, brought to the type of the parameter. -/
theorem convert_given {typed : String} (h : IsPlainText typed) :
    ParameterType.convert (some .string) ((Json.read? typed).getD (.string typed)) =
      .string (receivedText typed) := by
  unfold receivedText
  cases hread : Json.read? typed with
  | none => rfl
  | some v =>
      rcases h v hread with ⟨n, rfl⟩ | ⟨b, rfl⟩
      · rfl
      · rfl

/-! ## From the argument to the value -/

/-- An argument that gives a variable is cut at its first equals sign. -/
theorem readVariable_argument {name : String} (hname : Text.isName name = true) (typed : String) :
    readVariable (name ++ "=" ++ typed) =
      .ok (name, (Json.read? typed).getD (.string typed)) := by
  have hequals : '=' ∉ name.toList := Text.not_mem_name hname (by decide)
  have htext : (name ++ "=" ++ typed).toList = name.toList ++ '=' :: typed.toList := by simp
  rw [readVariable, htext, Text.cutAt?_char hequals]
  simp [Text.trim_name hname]

/-- The results of a traversal are results of its steps. -/
theorem exists_of_mem_mapM {arguments : List String} {given : Members}
    (h : arguments.mapM readVariable = .ok given) :
    ∀ m ∈ given, ∃ argument ∈ arguments, readVariable argument = .ok m := by
  induction arguments generalizing given with
  | nil =>
      cases h
      nofun
  | cons argument arguments ih =>
      rw [List.mapM_cons] at h
      obtain ⟨first, hfirst, h⟩ := Except.bind_eq_ok_iff.1 h
      obtain ⟨rest, hrest, h⟩ := Except.bind_eq_ok_iff.1 h
      cases h
      intro m hm
      rcases List.mem_cons.1 hm with rfl | hm
      · exact ⟨argument, List.mem_cons_self, hfirst⟩
      · rcases ih hrest m hm with ⟨other, hother, hread⟩
        exact ⟨other, List.mem_cons_of_mem _ hother, hread⟩

section

variable {files : FileAccess Id} {s : TransformSettings} {file values : Members}

/-- A step after another one succeeds on what the first one gives. -/
theorem exists_of_run_bind {α β : Type} {x : ExceptT Error Id α} {f : α → ExceptT Error Id β}
    {b : β} (h : (x >>= f).run = .ok b) : ∃ a, x.run = .ok a ∧ (f a).run = .ok b := by
  cases hx : (x.run : Except Error α) with
  | error e =>
      have hbind : (x >>= f).run = .error e := congrArg (ExceptT.bindCont f) hx
      rw [hbind] at h
      cases h
  | ok a =>
      have hbind : (x >>= f).run = (f a).run := congrArg (ExceptT.bindCont f) hx
      exact ⟨a, rfl, hbind.symm.trans h⟩

/-- The variables of a file are those of an object, so they have no name twice. -/
theorem nodup_keys_loadVariablesFile {path : Option String}
    (h : (loadVariablesFile files path).run = .ok file) : file.keys.Nodup := by
  cases path with
  | none =>
      cases h
      exact List.nodup_nil
  | some path =>
      rw [loadVariablesFile] at h
      obtain ⟨text, -, h⟩ := exists_of_run_bind h
      split at h
      · rename_i members hread
        cases h
        exact Json.nodup_keys_of_read? hread
      · cases h
      · cases h

/-- The variables of a run are those of the file, and over them those of the arguments. -/
theorem loadVariables_eq_ok (h : (loadVariables files s).run = .ok values) :
    ∃ file given, file.keys.Nodup ∧ s.given.mapM readVariable = .ok given ∧
      values = Members.insertAll file given := by
  rw [loadVariables] at h
  obtain ⟨file, hfile, h⟩ := exists_of_run_bind h
  obtain ⟨given, hgiven, h⟩ := exists_of_run_bind h
  cases h
  exact ⟨file, given, nodup_keys_loadVariablesFile hfile, hgiven, rfl⟩

variable {spec : Spec} {p : Parameter} {before after : List String} {typed : String}

/-- The last argument that names a variable gives it its value. -/
theorem get?_of_given (hname : Text.isName p.name = true)
    (hgiven : s.given = before ++ (p.name ++ "=" ++ typed) :: after)
    (hlast : ∀ argument ∈ after, ∀ m, readVariable argument = .ok m → m.1 ≠ p.name)
    (hvalues : (loadVariables files s).run = .ok values) :
    values.keys.Nodup ∧
      Members.get? p.name values = some ((Json.read? typed).getD (.string typed)) := by
  obtain ⟨file, given, hfile, hread, rfl⟩ := loadVariables_eq_ok hvalues
  rw [hgiven, List.mapM_append] at hread
  obtain ⟨first, -, hread⟩ := Except.bind_eq_ok_iff.1 hread
  obtain ⟨rest, hrest, hread⟩ := Except.bind_eq_ok_iff.1 hread
  cases hread
  rw [List.mapM_cons] at hrest
  obtain ⟨m, hm, hrest⟩ := Except.bind_eq_ok_iff.1 hrest
  obtain ⟨others, hothers, hrest⟩ := Except.bind_eq_ok_iff.1 hrest
  cases hrest
  rw [readVariable_argument hname] at hm
  cases hm
  -- what comes after the argument gives no value for the name
  have hnone : Members.assigned p.name others = [] := by
    apply Members.assigned_eq_nil
    intro hmem
    obtain ⟨m, hm, hkey⟩ := List.mem_map.1 hmem
    obtain ⟨argument, hargument, hread⟩ := exists_of_mem_mapM hothers m hm
    exact hlast argument hargument m hread hkey
  have hassigned : (Members.assigned p.name
      (first ++ (p.name, (Json.read? typed).getD (.string typed)) :: others)).getLast? =
        some ((Json.read? typed).getD (.string typed)) := by
    rw [Members.assigned_append, Members.assigned_cons_self, hnone, List.getLast?_concat]
  refine ⟨Members.nodup_keys_insertAll hfile _, ?_⟩
  rw [Members.get?_insertAll, hassigned, Option.some_or]

/-- The holes of the expressions see the text that is received as the value of the parameter. -/
theorem value_of_given (hspec : spec.shapeFlaws = []) (hp : p ∈ spec.parameters)
    (htype : p.type = .string) (hplain : IsPlainText typed)
    (hgiven : s.given = before ++ (p.name ++ "=" ++ typed) :: after)
    (hlast : ∀ argument ∈ after, ∀ m, readVariable argument = .ok m → m.1 ≠ p.name)
    (hvalues : (loadVariables files s).run = .ok values) :
    (Plan.bindings spec (spec.values values)).value p.name =
      .ok (.string (receivedText typed)) := by
  have hshape := Spec.shapeFlaws_eq_nil_iff.1 hspec
  have hname := (hshape.parameters p hp).named
  obtain ⟨hnodup, hget⟩ := get?_of_given hname hgiven hlast hvalues
  have hvalue : Members.get? p.name (spec.values values) =
      some ((Json.read? typed).getD (.string typed)) := by
    rw [Spec.get?_values spec hnodup, hget, Option.some_or]
  have hdeclared := Spec.declarations_of_mem hshape.parameters_distinct hp
  rw [Template.Bindings.value_eq_convert hvalue, Spec.type?_bindings, hdeclared,
    List.getLast?_singleton, Option.map_some, htype, convert_given hplain]

/-! ## The text in the expressions -/

/--
A parameter of type string receives a number or a truth value as its usual text, and a text that is
no JSON as it was typed. In every expression of the query language whose variables have values, each
hole of the parameter that no double quotes enclose becomes a literal of that text, which denotes
the text as JSON and as a query. Nothing else that is given matters, the variables file included,
as long as no argument after this one names the parameter. The text is the typed one exactly if the
typed one is no JSON or the usual text of its value, as it is for the integers of 64 bits.
-/
theorem string_parameter_receives_text (hdialect : spec.input.dialect = .json)
    (hspec : spec.shapeFlaws = []) (hp : p ∈ spec.parameters) (htype : p.type = .string)
    (hplain : IsPlainText typed) (hgiven : s.given = before ++ (p.name ++ "=" ++ typed) :: after)
    (hlast : ∀ argument ∈ after, ∀ m, readVariable argument = .ok m → m.1 ≠ p.name)
    (hvalues : (loadVariables files s).run = .ok values) :
    (∀ expr path, (∀ q ∈ Template.placeholders expr,
        (Plan.bindings spec (spec.values values)).lacks q.name = false) →
      ∃ items last, expr.toList = Template.sourceText items last ∧
        (Template.placeholders expr).map (fun q => (q.start, q.name)) =
          Template.positions 0 items ∧
        Plan.filled spec (spec.values values) expr path =
          .ok (String.ofList (Template.filledText items last)) ∧
        ∀ front seg text more, items = front ++ (seg, text) :: more → seg.name = p.name →
          seg.quote? (Template.sourceText more last) ≠ some '"' →
            text = (Json.string (receivedText typed)).compact.toList) ∧
      Json.readString? (Json.string (receivedText typed)).compact.toList =
        some (receivedText typed) ∧
      (∃ q, Query.read (Json.string (receivedText typed)).compact = .ok q ∧
        ∀ input, q.eval input = .ok [.string (receivedText typed)]) ∧
      (receivedText typed = typed ↔ ∀ v, Json.read? typed = some v → v.text = typed) ∧
      ∀ n : Int, (Number.integer n).InRange → typed = toString n → receivedText typed = typed := by
  have hvalue := value_of_given hspec hp htype hplain hgiven hlast hvalues
  refine ⟨?_, (denotes_compact_string _).1, (denotes_compact_string _).2,
    receivedText_eq_self_iff typed, ?_⟩
  · intro expr path hvars
    obtain ⟨items, last, hsource, hfill, hfilled, hpositions⟩ :=
      (Template.fill_replaces_placeholders .json _ expr).2.2.2.1 hvars
    refine ⟨items, last, hsource, hpositions, ?_, ?_⟩
    · rw [Plan.filled, hdialect, hfill]
      rfl
    · intro front seg text more hitems hname hquote
      exact hfilled.text_of_outside hitems (hname ▸ hvalue) hquote
  · rintro n hrange rfl
    rw [receivedText, Json.read?_toString hrange]
    rfl

end

/-! ## A number with a zero at its end -/

def price : Parameter :=
  ⟨"p", .string, true, none⟩

/-- A specification of one column, which is the value of its one parameter. -/
def echoed : Spec where
  version := 1
  name := "echoed"
  input := ⟨.json, "."⟩
  output := ⟨.text, []⟩
  mappings := [⟨"a", String.ofList (Template.Piece.hole price.name).source, .any, none⟩]
  filters := []
  onMissing := .null
  parameters := [price]

def pricedRun : TransformSettings where
  spec := "s"
  input := "i"
  givenFile := none
  given := ["p=2", "p=1.50"]
  limits := .none
  output := none

def noFiles : FileAccess Id where
  read _ := .error .missing
  write _ _ := .error .missing

def pricedValues : Members :=
  [("p", (Json.read? "1.50").getD (.string "1.50"))]

theorem shapeFlaws_echoed : echoed.shapeFlaws = [] := by
  decide +kernel

theorem loadVariables_pricedRun : (loadVariables noFiles pricedRun).run = .ok pricedValues :=
  rfl

/-- A decimal is plain text, also one that would be written without its last zero. -/
theorem isPlainText_decimal : IsPlainText "1.50" := by
  have hkind : (Json.read? "1.50").map Json.kind = some .number := by decide +kernel
  intro v hread
  rw [hread] at hkind
  cases v with
  | number n => exact .inl ⟨n, rfl⟩
  | _ => cases hkind

theorem receivedText_decimal : receivedText "1.50" = "1.5" := by
  decide +kernel

/-- The text parameter `p` given as `1.50` receives the text `1.5`. -/
theorem string_parameter_receives_text_of_decimal :
    echoed.input.dialect = .json ∧ echoed.shapeFlaws = [] ∧ price ∈ echoed.parameters ∧
      price.type = .string ∧ IsPlainText "1.50" ∧
      pricedRun.given = ["p=2"] ++ (price.name ++ "=" ++ "1.50") :: [] ∧
      (loadVariables noFiles pricedRun).run = .ok pricedValues ∧
      Json.readString? (Json.string (receivedText "1.50")).compact.toList =
        some (receivedText "1.50") ∧
      receivedText "1.50" = "1.5" := by
  have hp : price ∈ echoed.parameters := List.mem_cons_self
  have hgiven : pricedRun.given = ["p=2"] ++ (price.name ++ "=" ++ "1.50") :: [] := rfl
  have hreceives := string_parameter_receives_text rfl shapeFlaws_echoed hp rfl isPlainText_decimal
    hgiven nofun loadVariables_pricedRun
  exact ⟨rfl, shapeFlaws_echoed, hp, rfl, isPlainText_decimal, hgiven, loadVariables_pricedRun,
    hreceives.2.1, receivedText_decimal⟩

/-- A number that is typed with a zero at its end is received without it. -/
theorem not_received_as_typed :
    ¬ ∀ (spec : Spec) (p : Parameter) (s : TransformSettings) (values : Members) (typed : String),
      spec.input.dialect = .json → spec.shapeFlaws = [] → p ∈ spec.parameters →
        p.type = .string → IsPlainText typed → s.given.getLast? = some (p.name ++ "=" ++ typed) →
          (loadVariables noFiles s).run = .ok values →
            Plan.filled spec (spec.values values)
              (String.ofList (Template.Piece.hole p.name).source) "mappings[0]" =
                .ok (Json.string typed).compact := by
  intro h
  have htyped := h echoed price pricedRun pricedValues "1.50" rfl shapeFlaws_echoed
    List.mem_cons_self rfl isPlainText_decimal rfl loadVariables_pricedRun
  have hreceived : (Plan.filled echoed (echoed.values pricedValues)
      (String.ofList (Template.Piece.hole price.name).source) "mappings[0]").toOption =
        some (Json.string "1.5").compact := by
    decide +kernel
  rw [htyped] at hreceived
  exact absurd hreceived (by decide +kernel)

end CommandLine
end Gleaner
