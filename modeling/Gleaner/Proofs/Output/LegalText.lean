import Gleaner.Proofs.Output.Markup
import Gleaner.Proofs.Plan.MissingValues
import Gleaner.Proofs.Query.Alphabet
/-!
# The characters of markup

Markup may not have every character: of the control characters it has the tab and the line ends
only. Writing rows as elements escapes the characters with a meaning in markup, and lets all others
pass. Here the characters of the output are followed back to where they come from:

* `Output.forall_mem_xmlLines`: they are those of the texts of the cells, apart from printable ones
  and line feeds;
* `Spec.Cell.isOver`: the values in the cells are made of the characters of the input, of the
  literals in the expressions and of the defaults;
* `Spec.xml_isChar_iff`: when the output has only characters that markup may have;
* `Spec.not_xml_isChar`: it has others when a string of the input has.
-/

namespace Gleaner

/-- The characters that a document of markup may have. -/
def Xml.IsChar (c : Char) : Prop :=
  c.toNat = 0x9 ∨ c.toNat = 0xA ∨ c.toNat = 0xD ∨ 0x20 ≤ c.toNat ∧ c.toNat ≤ 0xD7FF ∨
    0xE000 ≤ c.toNat ∧ c.toNat ≤ 0xFFFD ∨ 0x10000 ≤ c.toNat ∧ c.toNat ≤ 0x10FFFF

instance : DecidablePred Xml.IsChar :=
  fun c => inferInstanceAs (Decidable (c.toNat = 0x9 ∨ c.toNat = 0xA ∨ c.toNat = 0xD ∨
    0x20 ≤ c.toNat ∧ c.toNat ≤ 0xD7FF ∨ 0xE000 ≤ c.toNat ∧ c.toNat ≤ 0xFFFD ∨
    0x10000 ≤ c.toNat ∧ c.toNat ≤ 0x10FFFF))

/-- Printable characters may stand in markup. -/
theorem Xml.isChar_of_isPrintable {c : Char} (h : Json.IsPrintable c) : Xml.IsChar c := by
  unfold Json.IsPrintable at h
  unfold Xml.IsChar
  omega

/-! ## Rows as elements -/

namespace Output

variable {P : Char → Prop}

/-- A tag name is made of printable characters. -/
theorem isPrintable_of_isTagChar {c : Char} (h : isTagChar c = true) : Json.IsPrintable c := by
  simp only [isTagChar, Char.isAlphanum, Char.isAlpha, Char.isUpper, Char.isLower, Bool.or_eq_true,
    Bool.and_eq_true, decide_eq_true_eq, beq_iff_eq, ge_iff_le, UInt32.le_iff_toNat_le] at h
  rcases h with ((((h | h) | h) | rfl) | rfl) | rfl
  · exact ⟨Nat.le_trans (by decide) h.1, Nat.lt_of_le_of_lt h.2 (by decide)⟩
  · exact ⟨Nat.le_trans (by decide) h.1, Nat.lt_of_le_of_lt h.2 (by decide)⟩
  · exact Json.isPrintable_of_isDigit h
  · decide
  · decide
  · decide

section Alphabet

variable (hP : ∀ c, Json.IsPrintable c → P c)

include hP

/-- The name of a tag in its brackets. -/
theorem forall_mem_tag {before after tag : String} (h : isTagName tag = true)
    (hbefore : ∀ c ∈ before.toList, Json.IsPrintable c)
    (hafter : ∀ c ∈ after.toList, Json.IsPrintable c) :
    ∀ c ∈ (before ++ tag ++ after).toList, P c := by
  rw [Text.forall_mem_between (Json.forall_mem_of_printable hP hbefore)
    (Json.forall_mem_of_printable hP hafter)]
  exact fun c hc => hP c (isPrintable_of_isTagChar ((Markup.isTagChar_of_isTagName h).2 c hc))

theorem forall_mem_startTag {tag : String} (h : isTagName tag = true) :
    ∀ c ∈ (startTag tag).toList, P c :=
  forall_mem_tag hP h (by simp [Json.IsPrintable]) (by simp [Json.IsPrintable])

theorem forall_mem_endTag {tag : String} (h : isTagName tag = true) :
    ∀ c ∈ (endTag tag).toList, P c :=
  forall_mem_tag hP h (by simp [Json.IsPrintable]) (by simp [Json.IsPrintable])

theorem forall_mem_emptyElement {tag : String} (h : isTagName tag = true) :
    ∀ c ∈ (emptyElement tag).toList, P c :=
  forall_mem_tag hP h (by simp [Json.IsPrintable]) (by simp [Json.IsPrintable])

/-- A text after some indentation. -/
theorem forall_mem_indented {indentation s : String}
    (hspace : ∀ c ∈ indentation.toList, Json.IsPrintable c) (h : ∀ c ∈ s.toList, P c) :
    ∀ c ∈ (indentation ++ s).toList, P c := by
  rw [String.toList_append]
  exact List.forall_mem_append.2 ⟨Json.forall_mem_of_printable hP hspace, h⟩

/--
A set with the printable characters holds a character's escape exactly if it holds the character.
-/
theorem forall_mem_escapedChar (c : Char) : (∀ d ∈ escapedChar c, P d) ↔ P c := by
  unfold escapedChar
  split
  case h_6 => simp
  -- the characters that are escaped are printable, and so is what stands for them
  all_goals
    refine iff_of_true ?_ (hP _ (by decide))
    exact Json.forall_mem_of_printable hP (by simp [Json.IsPrintable])

theorem forall_mem_escapedText (s : String) :
    (∀ c ∈ (escapedText s).toList, P c) ↔ ∀ c ∈ s.toList, P c := by
  simp only [escapedText, String.toList_ofList, List.forall_mem_flatMap]
  exact forall_congr' fun c => imp_congr_right fun _ => forall_mem_escapedChar hP c

/-- The line of a cell has the characters of the text in the cell. -/
theorem forall_mem_cellLine {cell : String × Json} (h : isTagName cell.1 = true) :
    (∀ c ∈ (cellLine cell).toList, P c) ↔ cell.2.TextOver P := by
  have hspace : ∀ c ∈ "    ".toList, Json.IsPrintable c := by simp [Json.IsPrintable]
  rcases cell with ⟨name, v⟩
  by_cases hnull : v = .null
  · -- an empty element has no text
    subst hnull
    exact iff_of_true (forall_mem_indented hP hspace (forall_mem_emptyElement hP h)) trivial
  · have hstart := forall_mem_indented hP hspace (forall_mem_startTag hP h)
    rw [(Markup.cellLine_of_ne_null hnull name).1,
      Text.forall_mem_between hstart (forall_mem_endTag hP h), forall_mem_escapedText hP,
      Json.forall_mem_text hP]

/-- The lines of a row are over `P` exactly if the values of its cells are. -/
theorem forall_mem_rowLines {rowTag : String} (htag : isTagName rowTag = true) {r : Record}
    (hnames : ∀ cell ∈ r.toList, isTagName cell.1 = true) :
    (∀ l ∈ rowLines rowTag r, ∀ c ∈ l.toList, P c) ↔ ∀ cell ∈ r.toList, cell.2.TextOver P := by
  have hspace : ∀ c ∈ "  ".toList, Json.IsPrintable c := by simp [Json.IsPrintable]
  have hstart := forall_mem_indented hP hspace (forall_mem_startTag hP htag)
  have hend := forall_mem_indented hP hspace (forall_mem_endTag hP htag)
  have hcells : (∀ l ∈ r.toList.map cellLine, ∀ c ∈ l.toList, P c) ↔
      ∀ cell ∈ r.toList, cell.2.TextOver P := by
    rw [List.forall_mem_map]
    exact forall₂_congr fun cell hcell => forall_mem_cellLine hP (hnames cell hcell)
  rw [rowLines, List.forall_mem_append, List.forall_mem_cons, List.forall_mem_singleton, hcells]
  exact (and_iff_left hend).trans (and_iff_right hstart)

/-- The lines of elements have the characters of the texts of their cells. -/
theorem forall_mem_xmlLines (hline : P '\n') {rootTag rowTag : String}
    (hroot : isTagName rootTag = true) (hrow : isTagName rowTag = true) (declaration : Bool)
    {rows : List Record} (hnames : ∀ r ∈ rows, ∀ cell ∈ r.toList, isTagName cell.1 = true) :
    (∀ c ∈ (lines (xmlLines rootTag rowTag declaration rows)).toList, P c) ↔
      ∀ r ∈ rows, ∀ cell ∈ r.toList, cell.2.TextOver P := by
  have hdeclaration : ∀ l ∈ (if declaration then [declarationLine] else []),
      ∀ c ∈ l.toList, P c := by
    cases declaration with
    | false => exact nofun
    | true =>
        refine List.forall_mem_singleton.2 (Json.forall_mem_of_printable hP ?_)
        simp [declarationLine, Json.IsPrintable]
  have hrows : (∀ l ∈ rows.flatMap (rowLines rowTag), ∀ c ∈ l.toList, P c) ↔
      ∀ r ∈ rows, ∀ cell ∈ r.toList, cell.2.TextOver P := by
    rw [List.forall_mem_flatMap]
    exact forall₂_congr fun r hr => forall_mem_rowLines hP hrow (hnames r hr)
  have hjoin : ∀ c ∈ "\n".toList, P c := by simpa using hline
  rw [lines, Text.forall_mem_joinWith hjoin, xmlLines, List.forall_mem_append]
  refine (and_iff_right hdeclaration).trans ?_
  -- without rows there is a single element, and nothing on the right is left to show
  cases rows with
  | nil => simpa using forall_mem_emptyElement hP hroot
  | cons r rows =>
      have hsome : ¬ (r :: rows).isEmpty = true := Bool.false_ne_true
      rw [if_neg hsome, List.forall_mem_append, List.forall_mem_cons, List.forall_mem_singleton,
        hrows]
      exact (and_iff_left (forall_mem_endTag hP hroot)).trans
        (and_iff_right (forall_mem_startTag hP hroot))

end Alphabet

/-- Markup is only rendered with tag names as column names. -/
theorem isTagName_of_xml {rows : List Record} {options : Members} {columns : List String}
    {text : String} (h : xml rows options columns = .ok text) :
    ∀ name ∈ columns, isTagName name = true := by
  rcases Except.bind_eq_ok_iff.1 h with ⟨_, _, h⟩
  rcases Except.bind_eq_ok_iff.1 h with ⟨_, _, h⟩
  rcases Except.bind_eq_ok_iff.1 h with ⟨_, _, h⟩
  cases hbad : badColumn? columns with
  | some bad => simp [hbad] at h
  | none =>
      rw [badColumn?, List.find?_eq_none] at hbad
      intro name hname
      rcases List.mem_iff_getElem?.1 hname with ⟨i, hi⟩
      have hmem : (name, i) ∈ columns.zipIdx := List.mem_zipIdx_iff_getElem?.2 hi
      simpa using hbad _ hmem

end Output

/-! ## Where the characters of cells come from -/

namespace Spec

variable {P : Char → Prop} {spec : Spec} {values : Members} {input : String}

/-- What the values of a run are made of: document, literals of the queries, and defaults. -/
structure SourcesOver (P : Char → Prop) (spec : Spec) (values : Members) (input : String) :
    Prop where
  document : ∀ v, Json.read? input = some v → v.IsOver P
  root : ∀ text q, spec.Fills values spec.input.root text → Query.read text = .ok q →
    q.LiteralsOver P
  mappings : ∀ m ∈ spec.mappings, ∀ text q, spec.Fills values m.expr text →
    Query.read text = .ok q → q.LiteralsOver P
  defaults : ∀ m ∈ spec.mappings, ∀ v ∈ m.default, v.IsOver P

/-- The rows of a document have no other characters than the results of its root. -/
theorem rowsOfResults_over {vs : List Json} (h : ∀ v ∈ vs, v.IsOver P) :
    ∀ v ∈ Document.rowsOfResults vs, v.IsOver P := by
  unfold Document.rowsOfResults
  split
  · exact Json.isOver_array.1 (h _ List.mem_cons_self)
  · exact nofun
  · exact h

/-- The rows of a document are made of its characters and of the literals of the root. -/
theorem rows_over (hP : ∀ c, Json.IsPrintable c → P c) {v : Json} (hv : v.IsOver P)
    {root : String} (hroot : ∀ q, Query.read root = .ok q → q.LiteralsOver P) {rows : List Row}
    (h : (Document.json v).rows root = .ok rows) :
    ∀ row ∈ rows, ∃ w, row = .json w ∧ w.IsOver P := by
  rw [Document.rows, Except.mapError_eq_ok_iff] at h
  rcases Except.bind_eq_ok_iff.1 h with ⟨q, hq, h⟩
  rcases Except.bind_eq_ok_iff.1 h with ⟨vs, hvs, h⟩
  cases h
  rw [Except.mapError_eq_ok_iff] at hq hvs
  intro row hrow
  rcases List.mem_map.1 hrow with ⟨w, hw, rfl⟩
  exact ⟨w, rfl, rowsOfResults_over (Query.eval_over hP (hroot q hq) hv vs hvs) w hw⟩

/-- Folding results into one value brings in no character. -/
theorem ofResults_over {vs : List Json} (h : ∀ v ∈ vs, v.IsOver P) :
    ∀ v ∈ Outcome.ofResults vs, v.IsOver P := by
  unfold Outcome.ofResults
  split
  · exact nofun
  · exact nofun
  · intro v hv
    cases hv
    exact h _ List.mem_cons_self
  · intro v hv
    cases hv
    exact Json.isOver_array.2 h

/-- Coercion brings in no character beyond the printable ones. -/
theorem coerce_over {type : ValueType} {o : Outcome} (h : ∀ v ∈ o, v.IsOver P) {v : Json}
    (hv : type.coerce o = some v) : v.IsOver P := by
  cases type with
  -- numbers and truth values have no strings in them
  | number =>
      rcases Option.bind_eq_some_iff.1 hv with ⟨_, _, hnumber⟩
      rcases ValueType.asNumber?_eq_some hnumber with ⟨n, rfl⟩
      trivial
  | boolean =>
      rcases Option.bind_eq_some_iff.1 hv with ⟨_, _, hbool⟩
      rcases ValueType.asBoolean?_eq_some hbool with ⟨b, rfl⟩
      trivial
  | string => exact h v hv
  | date => exact h v hv
  | any => exact h v hv

/-- What an expression finds on a value is made of its characters and of the literals. -/
theorem outcome_over (hP : ∀ c, Json.IsPrintable c → P c) {text : String} {x : Expression}
    (hx : Expression.read .json text = .ok x)
    (hliterals : ∀ q, Query.read text = .ok q → q.LiteralsOver P) {w : Json} (hw : w.IsOver P)
    {found : Outcome} (hfound : x.outcome (.json w) = .ok found) : ∀ v ∈ found, v.IsOver P := by
  rcases Except.map_eq_ok_iff.1 (Except.mapError_eq_ok_iff.1 hx) with ⟨q, hq, rfl⟩
  rcases Except.map_eq_ok_iff.1 (Except.mapError_eq_ok_iff.1 hfound) with ⟨vs, hvs, rfl⟩
  exact ofResults_over (Query.eval_over hP (hliterals q hq) hw vs hvs)

/-- A cell is over the characters of the sources of a run and the printable ones. -/
theorem Cell.isOver (hdialect : spec.input.dialect = .json) (hP : ∀ c, Json.IsPrintable c → P c)
    (hsources : spec.SourcesOver P values input) {m : Mapping} (hm : m ∈ spec.mappings)
    {w v : Json} (hw : w.IsOver P) (h : spec.Cell values (.json w) m v) : v.IsOver P := by
  cases h with
  | null _ _ => trivial
  | found hfound =>
      rcases hfound with ⟨text, x, found, hreads, houtcome, hv⟩
      have hread := hreads.read
      rw [hdialect] at hread
      have hover := outcome_over hP hread (hsources.mappings m hm text · hreads.fills) hw houtcome
      cases hcoerce : m.type.coerce found with
      | some u =>
          rw [hcoerce] at hv
          cases hv
          exact coerce_over hover hcoerce
      | none =>
          -- the default stands in for a value that is missing or of the wrong type
          rw [hcoerce] at hv
          exact hsources.defaults m hm v hv

variable {given : Members} {limits : Limits} {out : String}

/-- The values in the records of a run are made of what the run starts from. -/
theorem records_over (hdialect : spec.input.dialect = .json)
    (hP : ∀ c, Json.IsPrintable c → P c) {rows : List Record}
    (h : spec.records input given limits = .ok rows)
    (hsources : spec.SourcesOver P (spec.values given) input) :
    ∀ r ∈ rows, ∀ cell ∈ r.toList, cell.2.IsOver P := by
  rcases records_eq_ok_iff.1 h with ⟨_, d, all, hread, hrun, rfl⟩
  rw [hdialect] at hread
  intro r hr
  rcases exists_row_of_evaluate hrun (limits.mem_of_mem_cut hr) with
    ⟨root, selected, row, hroot, hselected, hrow, hyields⟩
  cases hjson : Json.read? input with
  | none => simp [Document.read, hjson] at hread
  | some v =>
      have hd : d = .json v := by simpa [Document.read, hjson] using hread.symm
      subst hd
      have hv := hsources.document v hjson
      rcases rows_over hP hv (hsources.root root · hroot) hselected row hrow with ⟨w, rfl, hw⟩
      have hcells : ∀ m ∈ spec.mappings, ∀ u, spec.Cell (spec.values given) (.json w) m u →
          u.IsOver P :=
        fun m hm u hu => hu.isOver hdialect hP hsources hm hw
      exact Cells.forall_mem hcells hyields

/-! ## The characters of the output -/

/-- The rendered markup is over `P` exactly if the values of all its cells are. -/
theorem forall_mem_transform (hP : ∀ c, Json.IsPrintable c → P c) (hline : P '\n')
    (hformat : spec.output.format = .xml) {rows : List Record}
    (hrecords : spec.records input given limits = .ok rows)
    (hrender : Output.render rows spec.output spec.columnNames = .ok out) :
    (∀ c ∈ out.toList, P c) ↔ ∀ r ∈ rows, ∀ cell ∈ r.toList, cell.2.TextOver P := by
  rw [Output.render, hformat] at hrender
  rcases Output.exists_tags_of_xml hrender with ⟨rootTag, rowTag, declaration, hroot, hrow, rfl⟩
  refine Output.forall_mem_xmlLines hP hline hroot hrow declaration ?_
  rcases records_eq_ok_iff.1 hrecords with ⟨_, d, all, _, hrun, rfl⟩
  intro r hr cell hcell
  rcases exists_row_of_evaluate hrun (limits.mem_of_mem_cut hr) with
    ⟨root, selected, row, _, _, _, hyields⟩
  have hnames : r.toList.map Prod.fst = spec.columnNames := Cells.names hyields
  exact Output.isTagName_of_xml hrender cell.1 (hnames ▸ List.mem_map_of_mem hcell)

/--
The output of a run has only characters that markup may have exactly when the text of every cell
has, where the control characters in a string inside an array or an object do not count. This is so
when the input, the literals of the queries and the defaults have only such characters.
-/
theorem xml_isChar_iff (hdialect : spec.input.dialect = .json)
    (hformat : spec.output.format = .xml) (h : spec.transform input given limits = .ok out) :
    ∃ rows, spec.records input given limits = .ok rows ∧
      ((∀ c ∈ out.toList, Xml.IsChar c) ↔
        ∀ r ∈ rows, ∀ cell ∈ r.toList, cell.2.TextOver Xml.IsChar) ∧
      (spec.SourcesOver Xml.IsChar (spec.values given) input → ∀ c ∈ out.toList, Xml.IsChar c) := by
  rcases Except.bind_eq_ok_iff.1 h with ⟨rows, hrecords, hrender⟩
  have hP : ∀ c, Json.IsPrintable c → Xml.IsChar c := fun _ => Xml.isChar_of_isPrintable
  have hcells := forall_mem_transform hP (.inr (.inl rfl)) hformat hrecords hrender
  refine ⟨rows, hrecords, hcells, ?_⟩
  intro hsources
  rw [hcells]
  intro r hr cell hcell
  exact (records_over hdialect hP hrecords hsources r hr cell hcell).textOver

def notes : Spec where
  version := 1
  name := "notes"
  input := ⟨.json, "."⟩
  output := ⟨.xml, []⟩
  mappings := [⟨"note", "note", .string, none⟩, ⟨"all", ".", .any, none⟩]
  filters := []
  onMissing := .null
  parameters := []

/-- A note with a control character in the name of a member, and none in its text. -/
def signedNote : String :=
  "[\x7b\"note\": \"a<b\", \"\\u0001\": 1\x7d]"

/-- What is written for that note: the control character is escaped. -/
def signedNoteWritten : String :=
  "<rows>\n  <row>\n    <note>a&lt;b</note>\n    <all>" ++
    "\x7b&quot;note&quot;:&quot;a&lt;b&quot;,&quot;\\u0001&quot;:1\x7d" ++
    "</all>\n  </row>\n</rows>"

/-- The name of a member with a control character is written in legal characters. -/
theorem xml_isChar_iff_of_notes :
    notes.input.dialect = .json ∧ notes.output.format = .xml ∧
      notes.transform signedNote [] .none = .ok signedNoteWritten ∧
      ∃ rows, notes.records signedNote [] .none = .ok rows ∧
        ((∀ c ∈ signedNoteWritten.toList, Xml.IsChar c) ↔
          ∀ r ∈ rows, ∀ cell ∈ r.toList, cell.2.TextOver Xml.IsChar) := by
  have hrun : notes.transform signedNote [] .none = .ok signedNoteWritten := by decide +kernel
  rcases xml_isChar_iff rfl rfl hrun with ⟨rows, hrows, hcells, _⟩
  exact ⟨rfl, rfl, hrun, rows, hrows, hcells⟩

def controlNote : String :=
  "[\x7b\"note\": \"\\u0001\"\x7d]"

/-- What is written for that note: as a text of its own, the control character is kept. -/
def controlNoteWritten : String :=
  "<rows>\n  <row>\n    <note>\x01</note>\n    <all>" ++
    "\x7b&quot;note&quot;:&quot;\\u0001&quot;\x7d" ++ "</all>\n  </row>\n</rows>"

/-- A control character in a string of the input stands in the output as it is. -/
theorem not_xml_isChar :
    ¬ ∀ (spec : Spec) (input : String) (given : Members) (limits : Limits) (out : String),
      spec.flaws = [] → spec.input.dialect = .json → spec.output.format = .xml →
        spec.transform input given limits = .ok out → ∀ c ∈ out.toList, Xml.IsChar c := by
  intro h
  have hflaws : notes.flaws = [] := by decide +kernel
  have hrun : notes.transform controlNote [] .none = .ok controlNoteWritten := by decide +kernel
  have hmem : Char.ofNat 1 ∈ controlNoteWritten.toList := by decide +kernel
  have hlegal := h notes controlNote [] .none controlNoteWritten hflaws rfl rfl hrun _ hmem
  exact absurd hlegal (by decide)

end Spec
end Gleaner
