import Gleaner.Output.Render
import Gleaner.Proofs.Sequencing
/-!
# Delimited text reads back

A reader of delimited text takes it one character at a time. Records end in a line feed, the last
one at the end of the text; fields are split at the delimiter. A field may stand in quotes, and a
quote inside of them is written twice. An empty line is a record of one empty field.

* `Delimited.Reader.next` is one step of the reader, `Delimited.read?` a whole text;
* `after_field`, `after_fieldLine` and `after_lines` follow it over a field, a line and all lines;
* `Output.csv_reads_back`: what is written for rows reads back as their texts.
-/

namespace Gleaner
namespace Output

namespace Delimited

/-! ## The reader -/

inductive Place where
  | start
  | bare
  | quoted
  -- After a quote inside of quotes: it ends the field, unless another quote follows.
  | closing
  -- After a character that no field can have there.
  | malformed
  deriving DecidableEq, Repr

def Place.mayEnd : Place → Bool
  | .start | .bare | .closing => true
  | .quoted | .malformed => false

structure Reader where
  records : List (List String)
  fields : List String
  held : List Char
  place : Place

namespace Reader

def initial : Reader :=
  ⟨[], [], [], .start⟩

def hold (r : Reader) (c : Char) (place : Place) : Reader :=
  { r with held := r.held ++ [c], place := place }

def endField (r : Reader) : Reader :=
  ⟨r.records, r.fields ++ [String.ofList r.held], [], .start⟩

def endRecord (r : Reader) : Reader :=
  ⟨r.records ++ [r.fields ++ [String.ofList r.held]], [], [], .start⟩

def next (delimiter : Char) (r : Reader) (c : Char) : Reader :=
  -- inside of quotes the delimiter and a line feed are characters of the field
  if r.place.mayEnd ∧ c = delimiter then r.endField
  else if r.place.mayEnd ∧ c = '\n' then r.endRecord
  else
    match r.place with
    | .start => if c = '"' then { r with place := .quoted } else r.hold c .bare
    | .bare => if c = '"' then { r with place := .malformed } else r.hold c .bare
    | .quoted => if c = '"' then { r with place := .closing } else r.hold c .quoted
    | .closing => if c = '"' then r.hold '"' .quoted else { r with place := .malformed }
    | .malformed => r

def after (delimiter : Char) (r : Reader) (cs : List Char) : Reader :=
  cs.foldl (next delimiter) r

/-- The records, when the text ends here; it cannot end inside of quotes. -/
def finish? (r : Reader) : Option (List (List String)) :=
  if r.place.mayEnd then some r.endRecord.records else none

end Reader

def read? (delimiter : Char) (text : String) : Option (List (List String)) :=
  (Reader.initial.after delimiter text.toList).finish?

namespace Reader

variable {delimiter : Char} {records : List (List String)} {fields : List String}
  {held : List Char}

theorem after_cons (r : Reader) (c : Char) (cs : List Char) :
    r.after delimiter (c :: cs) = (r.next delimiter c).after delimiter cs :=
  rfl

theorem after_append (r : Reader) (as bs : List Char) :
    r.after delimiter (as ++ bs) = (r.after delimiter as).after delimiter bs :=
  List.foldl_append

theorem next_delimiter {r : Reader} (h : r.place.mayEnd = true) :
    r.next delimiter delimiter = r.endField := by
  simp [next, h]

theorem next_lineFeed {r : Reader} (hd : delimiter ≠ '\n') (h : r.place.mayEnd = true) :
    r.next delimiter '\n' = r.endRecord := by
  simp [next, h, Ne.symm hd]

/-! ## Fields -/

/-- Outside of quotes, a text without special characters is held. -/
theorem after_bare {cs : List Char} (h : ∀ c ∈ cs, c ≠ delimiter ∧ c ≠ '"' ∧ c ≠ '\n')
    {place : Place} (hplace : place = .start ∨ place = .bare) :
    ∃ last : Place, last.mayEnd = true ∧
      after delimiter ⟨records, fields, held, place⟩ cs = ⟨records, fields, held ++ cs, last⟩ := by
  induction cs generalizing held place with
  | nil =>
      refine ⟨place, ?_, by simp [after]⟩
      rcases hplace with rfl | rfl <;> rfl
  | cons c cs ih =>
      rcases h c List.mem_cons_self with ⟨hdelimiter, hquote, hline⟩
      -- from here on the field is bare, wherever the reader stood before
      have hstep : next delimiter ⟨records, fields, held, place⟩ c =
          ⟨records, fields, held ++ [c], .bare⟩ := by
        rcases hplace with rfl | rfl <;> simp [next, hold, hdelimiter, hquote, hline]
      have hrest : ∀ b ∈ cs, b ≠ delimiter ∧ b ≠ '"' ∧ b ≠ '\n' :=
        fun b hb => h b (List.mem_cons_of_mem c hb)
      rcases @ih (held ++ [c]) hrest .bare (.inr rfl) with ⟨last, hend, hafter⟩
      refine ⟨last, hend, ?_⟩
      rw [after_cons, hstep, hafter, List.append_assoc]
      rfl

/-- Inside of quotes, a text with its quotes doubled is held as it was. -/
theorem after_doubledQuotes (hd : delimiter ≠ '"') (cs : List Char) :
    after delimiter ⟨records, fields, held, .quoted⟩ (doubledQuotes cs) =
      ⟨records, fields, held ++ cs, .quoted⟩ := by
  induction cs generalizing held with
  | nil => simp [doubledQuotes, after]
  | cons c cs ih =>
      by_cases hc : c = '"'
      -- the first quote of a pair might end the field, the second one says that it does not
      · have hpair : doubledQuotes (c :: cs) = '"' :: '"' :: doubledQuotes cs := by
          simp [doubledQuotes, hc]
        have hfirst : next delimiter ⟨records, fields, held, .quoted⟩ '"' =
            ⟨records, fields, held, .closing⟩ := by
          simp [next, Place.mayEnd]
        have hsecond : next delimiter ⟨records, fields, held, .closing⟩ '"' =
            ⟨records, fields, held ++ ['"'], .quoted⟩ := by
          simp [next, hold, Ne.symm hd]
        rw [hpair, after_cons, hfirst, after_cons, hsecond, ih, hc]
        simp
      · have hsingle : doubledQuotes (c :: cs) = c :: doubledQuotes cs := by
          simp [doubledQuotes, hc]
        have hstep : next delimiter ⟨records, fields, held, .quoted⟩ c =
            ⟨records, fields, held ++ [c], .quoted⟩ := by
          simp [next, hold, Place.mayEnd, hc]
        rw [hsingle, after_cons, hstep, ih]
        simp

/-- A field is held as it is, in quotes or not, and can end after what is written for it. -/
theorem after_field (hd : delimiter ≠ '"') (field : String) :
    ∃ place : Place, place.mayEnd = true ∧
      after delimiter ⟨records, fields, [], .start⟩ (writtenField delimiter field).toList =
        ⟨records, fields, field.toList, place⟩ := by
  by_cases hquotes : needsQuotes delimiter field.toList = true
  · refine ⟨.closing, rfl, ?_⟩
    have htext : (writtenField delimiter field).toList =
        '"' :: (doubledQuotes field.toList ++ ['"']) := by
      simp [writtenField, hquotes]
    have hopen : next delimiter ⟨records, fields, [], .start⟩ '"' =
        ⟨records, fields, [], .quoted⟩ := by
      simp [next, Ne.symm hd]
    have hclose : next delimiter ⟨records, fields, field.toList, .quoted⟩ '"' =
        ⟨records, fields, field.toList, .closing⟩ := by
      simp [next, Place.mayEnd]
    calc
      after delimiter ⟨records, fields, [], .start⟩ (writtenField delimiter field).toList
          = after delimiter (after delimiter ⟨records, fields, [], .quoted⟩
              (doubledQuotes field.toList)) ['"'] := by
            rw [htext, after_cons, hopen, after_append]
      _ = next delimiter ⟨records, fields, field.toList, .quoted⟩ '"' := by
            rw [after_doubledQuotes hd]
            rfl
      _ = ⟨records, fields, field.toList, .closing⟩ := hclose
  · -- a bare field holds nothing that would end it
    have htext : (writtenField delimiter field).toList = field.toList := by
      simp [writtenField, hquotes]
    have hplain : ∀ c ∈ field.toList, c ≠ delimiter ∧ c ≠ '"' ∧ c ≠ '\n' := by
      intro c hc
      simp only [needsQuotes, List.any_eq_true, not_exists, not_and, Bool.or_eq_true,
        beq_iff_eq, not_or] at hquotes
      rcases hquotes c hc with ⟨⟨⟨hdelimiter, hquote⟩, hline⟩, _⟩
      exact ⟨hdelimiter, hquote, hline⟩
    rw [htext]
    exact after_bare hplain (.inl rfl)

/-! ## Lines -/

/-- A line is its written fields with the delimiter between them. -/
theorem toList_fieldLine {fields : List String} (h : fields ≠ []) :
    (fieldLine delimiter fields).toList =
      [delimiter].intercalate (fields.map fun f => (writtenField delimiter f).toList) := by
  cases fields with
  | nil => exact absurd rfl h
  | cons first rest =>
      simp [fieldLine, Text.joinWith, String.toList_intercalate, Function.comp_def]

/-- A line has been read: the record can end, and then it has these fields. -/
structure Completes (r : Reader) (records : List (List String)) (record : List String) : Prop where
  mayEnd : r.place.mayEnd = true
  endRecord_eq : r.endRecord = ⟨records ++ [record], [], [], .start⟩

/-- Reading one line back from the start of a field gives its fields. -/
theorem after_fieldLine (hd : delimiter ≠ '"') {line : List String} (h : line ≠ []) :
    (after delimiter ⟨records, fields, [], .start⟩ (fieldLine delimiter line).toList).Completes
      records (fields ++ line) := by
  rw [toList_fieldLine h]
  induction line generalizing fields with
  | nil => exact absurd rfl h
  | cons first rest ih =>
      rcases @after_field delimiter records fields hd first with ⟨place, hend, hfirst⟩
      cases rest with
      | nil =>
          rw [List.map_singleton, List.intercalate_singleton, hfirst]
          exact ⟨hend, by simp [endRecord]⟩
      | cons second rest =>
          -- the delimiter ends the first field; the others are a line of their own
          have hstep : next delimiter ⟨records, fields, first.toList, place⟩ delimiter =
              ⟨records, fields ++ [first], [], .start⟩ := by
            rw [next_delimiter hend]
            simp [endField]
          have hrest := @ih (fields ++ [first]) (by simp)
          rw [List.append_assoc] at hrest
          rw [List.map_cons, List.map_cons, List.intercalate_cons_cons, after_append,
            after_append, hfirst, after_cons, hstep]
          exact hrest

/-- Reading the whole table back gives its lines behind those read before. -/
theorem after_lines (hquote : delimiter ≠ '"') (hline : delimiter ≠ '\n')
    {table : List (List String)} (hne : table ≠ []) (hfields : ∀ line ∈ table, line ≠ []) :
    (after delimiter ⟨records, [], [], .start⟩
      (lines (table.map (fieldLine delimiter))).toList).finish? = some (records ++ table) := by
  induction table generalizing records with
  | nil => exact absurd rfl hne
  | cons line rest ih =>
      have hnonempty := hfields line List.mem_cons_self
      have hfirst := @after_fieldLine delimiter records [] hquote line hnonempty
      cases rest with
      | nil =>
          rw [List.map_singleton, lines_singleton, finish?, if_pos hfirst.mayEnd,
            hfirst.endRecord_eq]
          rfl
      | cons second rest =>
          have htext : (lines ((line :: second :: rest).map (fieldLine delimiter))).toList =
              (fieldLine delimiter line).toList ++
                '\n' :: (lines ((second :: rest).map (fieldLine delimiter))).toList :=
            toList_lines_cons_cons _ _ _
          have hrest := @ih (records ++ [line]) (by simp)
            (fun l hl => hfields l (List.mem_cons_of_mem line hl))
          rw [List.append_assoc] at hrest
          -- the first line is read where its field can end, so the line feed ends the record
          rw [htext, after_append, after_cons, next_lineFeed hline hfirst.mayEnd,
            hfirst.endRecord_eq]
          exact hrest

end Reader
end Delimited

/-! ## What is written for rows -/

/-- The options give no other character than a legal delimiter. -/
theorem isDelimiter_of_delimiter {options : Members} {c : Char} (h : delimiter options = .ok c) :
    isDelimiter c = true := by
  rcases Except.bind_eq_ok_iff.1 h with ⟨s, _, hs⟩
  split at hs
  · rename_i d _
    by_cases hd : isDelimiter d = true
    · simp only [hd, if_true, Except.ok.injEq] at hs
      exact hs ▸ hd
    · simp [hd] at hs
  · cases hs

/-- The lines are those of a table: the column names, if they are wanted, and the rows' texts. -/
theorem csvLines_eq_map (separator : Char) (header : Bool) (rows : List Record)
    (columns : List String) :
    csvLines separator header rows columns =
      ((if header then [columns] else []) ++ rows.map fun r => r.values.map Json.text).map
        (fieldLine separator) := by
  cases header <;> simp [csvLines, Function.comp_def]

/--
The rows as delimited text read back as the column names, unless the header is off, and the text of
every cell of every row, in order; some line has to be written, and no row may be without cells.
-/
theorem csv_reads_back {rows : List Record} {options : Members} {columns : List String}
    {separator : Char} {header : Bool} (hseparator : delimiter options = .ok separator)
    (hheader : boolOption options "header" true = .ok header) (hcolumns : columns ≠ [])
    (hcells : ∀ r ∈ rows, r.toList ≠ []) (hline : header = true ∨ rows ≠ []) :
    ∃ text, csv rows options columns = .ok text ∧
      Delimited.read? separator text =
        some ((if header then [columns] else []) ++ rows.map fun r => r.values.map Json.text) := by
  have hallowed := isDelimiter_of_delimiter hseparator
  simp only [isDelimiter, Bool.and_eq_true, bne_iff_ne, ne_eq] at hallowed
  rcases hallowed with ⟨⟨⟨_, hquote⟩, hfeed⟩, _⟩
  have htext : csv rows options columns = .ok (lines (csvLines separator header rows columns)) := by
    rw [csv, hseparator, hheader]
    rfl
  refine ⟨_, htext, ?_⟩
  rw [csvLines_eq_map]
  -- the reader needs a line to read, and a field on each
  generalize htable : ((if header then [columns] else []) ++
    rows.map fun r => r.values.map Json.text) = table
  have hne : table ≠ [] := by
    rcases hline with rfl | hrows
    · simp [← htable]
    · simp [← htable, hrows]
  have hfields : ∀ line ∈ table, line ≠ [] := by
    intro line hmem
    rw [← htable] at hmem
    rcases List.mem_append.1 hmem with hnames | hrow
    · cases header with
      | false => cases hnames
      | true => exact List.mem_singleton.1 hnames ▸ hcolumns
    · rcases List.mem_map.1 hrow with ⟨r, hr, rfl⟩
      simpa [Record.values, Record.toList] using hcells r hr
  exact @Delimited.Reader.after_lines separator [] hquote hfeed table hne hfields

/-- An empty line is a record of one empty field. -/
example : Delimited.read? ',' "a\n\n\"b\nc\",\"\"\"\"" = some [["a"], [""], ["b\nc", "\""]] := by
  decide +kernel

/-- Notes with the delimiter, quotes and line ends in one of them, and nothing in the other. -/
def awkwardNotes : List Record :=
  [⟨[("note", .string "a;b\n\"c\"\n")]⟩, ⟨[("note", .null)]⟩]

/-- A note with the delimiter, quotes and line ends in it reads back, and an absent one as empty. -/
theorem csv_reads_back_of_awkwardNotes :
    delimiter [("delimiter", .string ";")] = .ok ';' ∧
    boolOption [("delimiter", .string ";")] "header" true = .ok true ∧
    (∀ r ∈ awkwardNotes, r.toList ≠ []) ∧
    ∃ text, csv awkwardNotes [("delimiter", .string ";")] ["note"] = .ok text ∧
      Delimited.read? ';' text = some [["note"], ["a;b\n\"c\"\n"], [""]] := by
  have hseparator : delimiter [("delimiter", .string ";")] = .ok ';' := by rfl
  have hheader : boolOption [("delimiter", .string ";")] "header" true = .ok true := by rfl
  have hcells : ∀ r ∈ awkwardNotes, r.toList ≠ [] := by decide
  exact ⟨hseparator, hheader, hcells,
    csv_reads_back hseparator hheader (by decide) hcells (.inl rfl)⟩

end Output
end Gleaner
