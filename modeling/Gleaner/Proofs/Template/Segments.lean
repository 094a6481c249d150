import Gleaner.Proofs.Template.Form
import Gleaner.Proofs.Template.Occurrences
/-!
# Filling a template segment by segment

A template is a sequence of segments, each a text and the hole after it, and a last text. Filling
keeps the texts and puts one rendering of a value in the place of each hole. In a path the two equal
quotes around a hole go with it, unless the first one went with the hole before.

* `rendering` is the text of a value in place of a hole, `droppedQuote` the quote that goes with it;
* `Segment`, `Filled`: the segments of a template and what each of them becomes;
* `segment_induction` is induction on a template by the segment at its front;
* `assemble` fills a template by a cursor over byte offsets, and `assemble_eq` says that it takes
  slices of the template only, and gives the same result;
* `fill_replaces_placeholders` puts the laws together.
-/

namespace Gleaner
namespace Template

open Text (byteLength byteLength_cons byteLength_append)

/-! ## What takes the place of a hole -/

/-- The text of a value in place of a hole that stands between two equal quotes, or does not. -/
def rendering (dialect : Dialect) (quote : Option Char) (v : Json) : List Char :=
  match dialect with
  | .json => jsonLiteral quote v
  | .xml => pathText quote.isSome v
  | .html => v.text.toList

/-- The quote that is dropped on both sides of a hole: only a path drops one. -/
def droppedQuote (dialect : Dialect) (quote : Option Char) : Option Char :=
  match dialect with
  | .xml => quote
  | .json | .html => none

def fillPieces (dialect : Dialect) (b : Bindings) (ps : List Piece) : Except String (List Char) :=
  match dialect with
  | .json => fillQuery b none ps
  | .xml => fillPath b ps
  | .html => fillSelector b ps

theorem fill_eq_fillPieces (dialect : Dialect) (b : Bindings) (s : String) :
    fill dialect b s = (fillPieces dialect b (pieces s.toList)).map String.ofList := by
  cases dialect <;> rfl

/-! ## Quotes around a hole -/

theorem enclosingQuote?_none (after : Option Char) : enclosingQuote? none after = none :=
  rfl

/-- A hole that follows directly opens with a brace, which is no quote. -/
theorem enclosingQuote?_head? (before : Option Char) (ps : List Piece) :
    enclosingQuote? before (ps.flatMap Piece.source).head? =
      enclosingQuote? before (nextChar ps) := by
  match ps with
  | [] => rfl
  | .char c :: rest => rfl
  | .hole name :: rest =>
      cases before with
      | none => rfl
      | some c =>
          show enclosingQuote? (some c) (some '\x7b') = none
          by_cases hc : c = '\x7b'
          · rw [hc]
            decide
          · simp [enclosingQuote?, hc]

/-! ## Filling texts and holes -/

section Filling

variable {b : Bindings}

/-- Plain text is filled to itself. -/
theorem fillSelector_chars (cs : List Char) (ps : List Piece) :
    fillSelector b (cs.map .char ++ ps) = (fillSelector b ps).map (cs ++ ·) := by
  induction cs with
  | nil =>
      show fillSelector b ps = (fillSelector b ps).map ([] ++ ·)
      cases fillSelector b ps <;> rfl
  | cons c cs ih =>
      rw [List.map_cons, List.cons_append, fillSelector, ih]
      cases fillSelector b ps <;> rfl

/-- A character of a path is kept unless it opens quotes around the hole after it. -/
theorem fillPath_char {c : Char} {ps : List Piece}
    (h : ∀ name rest, ps = .hole name :: .char c :: rest → isQuote c = false) :
    fillPath b (.char c :: ps) = (fillPath b ps).map (c :: ·) := by
  match ps with
  | .hole name :: .char d :: rest =>
      have hnot : ¬ (c = d ∧ isQuote c = true) := by
        rintro ⟨rfl, hquote⟩
        rw [h name rest rfl] at hquote
        cases hquote
      rw [fillPath, if_neg hnot]
  | [] => rfl
  | .char d :: rest => rfl
  | [.hole name] => rfl
  | .hole name :: .hole other :: rest => rfl

/-- A text of a path is kept unless its last character opens quotes around the hole after it. -/
theorem fillPath_chars (cs : List Char) (ps : List Piece)
    (h : ∀ c ∈ cs.getLast?, ∀ name rest, ps = .hole name :: .char c :: rest → isQuote c = false) :
    fillPath b (cs.map .char ++ ps) = (fillPath b ps).map (cs ++ ·) := by
  induction cs with
  | nil =>
      show fillPath b ps = (fillPath b ps).map ([] ++ ·)
      cases fillPath b ps <;> rfl
  | cons c cs ih =>
      have hrest : ∀ d ∈ cs.getLast?, ∀ name rest, ps = .hole name :: .char d :: rest →
          isQuote d = false := by
        intro d hd
        cases cs with
        | nil => cases hd
        | cons e cs => exact h d hd
      rw [List.map_cons, List.cons_append, fillPath_char, ih hrest]
      · cases fillPath b ps <;> rfl
      · -- only the last character can be followed by a hole
        intro name rest hps
        cases cs with
        | nil => exact h c rfl name rest hps
        | cons d cs => cases hps

/-- Without holes the text is filled to itself in every dialect. -/
theorem fillPieces_chars (dialect : Dialect) (cs : List Char) :
    fillPieces dialect b (cs.map .char) = .ok cs := by
  rw [← List.append_nil (cs.map Piece.char)]
  cases dialect with
  | json =>
      rw [fillPieces, fillQuery_chars]
      exact congrArg Except.ok (List.append_nil cs)
  | xml =>
      rw [fillPieces, fillPath_chars cs [] nofun]
      exact congrArg Except.ok (List.append_nil cs)
  | html =>
      rw [fillPieces, fillSelector_chars]
      exact congrArg Except.ok (List.append_nil cs)

/-- A hole that keeps the characters around it is filled with the rendering of its value. -/
theorem fillPieces_hole {dialect : Dialect} {text : List Char} {name : String} {rest : List Piece}
    (hkept : droppedQuote dialect (enclosingQuote? text.getLast? (nextChar rest)) = none) :
    fillPieces dialect b (text.map .char ++ .hole name :: rest) = (do
      let v ← b.value name
      let more ← fillPieces dialect b rest
      .ok (text ++ rendering dialect (enclosingQuote? text.getLast? (nextChar rest)) v ++
        more)) := by
  cases dialect with
  | json =>
      simp only [fillPieces, rendering]
      rw [fillQuery_chars, fillQuery_hole, Option.or_none]
      cases b.value name with
      | error e => rfl
      | ok v =>
          cases fillQuery b none rest <;> simp [bind, Except.bind, Except.map]
  | xml =>
      have hnone : enclosingQuote? text.getLast? (nextChar rest) = none := hkept
      simp only [fillPieces, rendering, hnone]
      rw [fillPath_chars text, fillPath]
      · cases b.value name with
        | error e => rfl
        | ok v => cases fillPath b rest <;> simp [bind, Except.bind, Except.map, pathText]
      · -- the last character of the text opens no quotes around the hole
        intro c hc name' rest' heq
        cases heq
        rw [Option.mem_def.1 hc] at hnone
        simpa [enclosingQuote?, nextChar] using hnone
  | html =>
      simp only [fillPieces, rendering]
      rw [fillSelector_chars, fillSelector]
      cases b.value name with
      | error e => rfl
      | ok v => cases fillSelector b rest <;> simp [bind, Except.bind, Except.map]

/-- A hole of a path between two equal quotes is filled together with them. -/
theorem fillPieces_quoted {text : List Char} {q : Char} {name : String} {rest : List Piece}
    (hq : isQuote q = true) :
    fillPieces .xml b (text.map .char ++ .char q :: .hole name :: .char q :: rest) = (do
      let v ← b.value name
      let more ← fillPieces .xml b rest
      .ok (text ++ rendering .xml (some q) v ++ more)) := by
  simp only [fillPieces, rendering]
  rw [fillPath_chars text (.char q :: .hole name :: .char q :: rest) nofun, fillPath,
    if_pos ⟨rfl, hq⟩]
  cases b.value name with
  | error e => rfl
  | ok v => cases fillPath b rest <;> simp [bind, Except.bind, Except.map, pathText]

end Filling

/-! ## Induction by segments -/

/-- Pieces begin with a text, and after it there is a hole or nothing. -/
theorem pieces_cases (ps : List Piece) :
    ∃ text : List Char, ps = text.map .char ∨
      ∃ name rest, ps = text.map .char ++ .hole name :: rest := by
  induction ps with
  | nil => exact ⟨[], .inl rfl⟩
  | cons p ps ih =>
      cases p with
      | hole name => exact ⟨[], .inr ⟨name, ps, rfl⟩⟩
      | char c =>
          rcases ih with ⟨text, rfl | ⟨name, rest, rfl⟩⟩
          · exact ⟨c :: text, .inl rfl⟩
          · exact ⟨c :: text, .inr ⟨name, rest, rfl⟩⟩

/-- Induction on a template by the segment at its front, with the quotes that go with its hole. -/
theorem segment_induction (dialect : Dialect) {motive : List Piece → Prop}
    (last : ∀ text : List Char, motive (text.map .char))
    (bare : ∀ (text : List Char) (name : String) (rest : List Piece),
      droppedQuote dialect (enclosingQuote? text.getLast? (nextChar rest)) = none → motive rest →
        motive (text.map .char ++ .hole name :: rest))
    (quoted : dialect = .xml → ∀ (text : List Char) (q : Char) (name : String) (rest : List Piece),
      isQuote q = true → motive rest →
        motive (text.map .char ++ .char q :: .hole name :: .char q :: rest))
    (ps : List Piece) : motive ps := by
  induction hlen : ps.length using Nat.strongRecOn generalizing ps with
  | ind n ih =>
      rcases pieces_cases ps with ⟨text, rfl | ⟨name, rest, rfl⟩⟩
      · exact last text
      · simp only [List.length_append, List.length_cons] at hlen
        cases hdropped : droppedQuote dialect (enclosingQuote? text.getLast? (nextChar rest)) with
        | none => exact bare text name rest hdropped (ih rest.length (by omega) rest rfl)
        | some q =>
            -- the quotes are the last character of the text and the first one after the hole
            have hxml : dialect = .xml := by
              cases dialect <;> first | rfl | cases hdropped
            rw [hxml] at hdropped
            rcases enclosingQuote?_eq_some hdropped with ⟨hbefore, hafter, hq⟩
            rcases List.getLast?_eq_some_iff.1 hbefore with ⟨text', rfl⟩
            cases rest with
            | nil => cases hafter
            | cons p rest =>
                cases p with
                | hole other => cases hafter
                | char c =>
                    have hc : c = q := Option.some.inj hafter
                    subst hc
                    rw [List.length_cons] at hlen
                    have hrest := ih rest.length (by omega) rest rfl
                    simpa using quoted hxml text' c name rest hq hrest

/-! ## The first missing value -/

theorem holeNames_chars (text : List Char) (ps : List Piece) :
    holeNames (text.map .char ++ ps) = holeNames ps := by
  induction text with
  | nil => rfl
  | cons c text ih => exact ih

def Bindings.lacks (b : Bindings) (name : String) : Bool :=
  (Members.get? name b.values).isNone

theorem Bindings.value_of_lacks {b : Bindings} {name : String} (h : b.lacks name = true) :
    b.value name = .error name := by
  rw [Bindings.value, Option.isNone_iff_eq_none.1 h]

/-- A variable that is not lacking has a value. -/
theorem Bindings.exists_value {b : Bindings} {name : String} (h : b.lacks name = false) :
    ∃ v, b.value name = .ok v := by
  cases hget : Members.get? name b.values with
  | none => simp [Bindings.lacks, hget] at h
  | some v => exact ⟨_, Bindings.value_eq_convert hget⟩

/-- A hole without a value ends the filling, and a hole with one leaves the rest to be filled. -/
theorem find?_lacks {b : Bindings} {name missing : String} {names : List String}
    {more : Except String (List Char)}
    (ih : more = .error missing ↔ names.find? b.lacks = some missing)
    (f : Json → List Char → List Char) :
    (do
      let v ← b.value name
      let filled ← more
      .ok (f v filled)) = .error missing ↔ (name :: names).find? b.lacks = some missing := by
  cases hlacks : b.lacks name with
  | true =>
      rw [Bindings.value_of_lacks hlacks, List.find?_cons_of_pos hlacks]
      simp [bind, Except.bind]
  | false =>
      rcases Bindings.exists_value hlacks with ⟨v, hv⟩
      rw [hv, List.find?_cons_of_neg (by simp [hlacks]), ← ih]
      cases more <;> simp [bind, Except.bind]

/-- Filling fails with the first name that has no value. -/
theorem fillPieces_eq_error_iff {dialect : Dialect} {b : Bindings} {missing : String}
    (ps : List Piece) :
    fillPieces dialect b ps = .error missing ↔ (holeNames ps).find? b.lacks = some missing := by
  induction ps using segment_induction dialect with
  | last text =>
      rw [fillPieces_chars, ← List.append_nil (text.map Piece.char), holeNames_chars]
      simp [holeNames]
  | bare text name rest hkept ih =>
      rw [fillPieces_hole hkept, holeNames_chars]
      exact find?_lacks ih _
  | quoted hxml text q name rest hq ih =>
      subst hxml
      rw [fillPieces_quoted hq, holeNames_chars]
      exact find?_lacks ih _

/-! ## Segments -/

/-- A part of a template: a text, and a hole after it with the quotes that are dropped around it. -/
structure Segment where
  text : List Char
  dropped : Option Char
  name : String

namespace Segment

def source (seg : Segment) : List Char :=
  seg.text ++ seg.dropped.toList ++ (Piece.hole seg.name).source ++ seg.dropped.toList

/-- The quote on both sides of the hole, one that went with the hole before not counted. -/
def quote? (seg : Segment) (rest : List Char) : Option Char :=
  enclosingQuote? (seg.text ++ seg.dropped.toList).getLast? (seg.dropped.toList ++ rest).head?

end Segment

def sourceText (items : List (Segment × List Char)) (last : List Char) : List Char :=
  items.flatMap (·.1.source) ++ last

/-- The texts of the segments, each with what takes the place of its hole, and the last text. -/
def filledText (items : List (Segment × List Char)) (last : List Char) : List Char :=
  items.flatMap (fun item => item.1.text ++ item.2) ++ last

/-- Each hole has the rendering of its value in its place, and no quotes but those it goes with. -/
def Filled (dialect : Dialect) (b : Bindings) (last : List Char) : List (Segment × List Char) → Prop
  | [] => True
  | (seg, text) :: more =>
    let quote := seg.quote? (sourceText more last)
    seg.dropped = droppedQuote dialect quote ∧
      (∃ v, b.value seg.name = .ok v ∧ text = rendering dialect quote v) ∧
      Filled dialect b last more

/-- Where the holes of segments stand that begin at an offset, and their names. -/
def positions (offset : Nat) : List (Segment × List Char) → List (Nat × String)
  | [] => []
  | (seg, _) :: more =>
    (offset + byteLength (seg.text ++ seg.dropped.toList), seg.name) ::
      positions (offset + byteLength seg.source) more

theorem flatMap_source_chars (text : List Char) (ps : List Piece) :
    (text.map Piece.char ++ ps).flatMap Piece.source = text ++ ps.flatMap Piece.source := by
  induction text with
  | nil => rfl
  | cons c text ih => exact congrArg (c :: ·) ih

/-- Plain text moves the placeholders behind it by its length in bytes. -/
theorem placeholdersFrom_chars (offset : Nat) (before : Option Char) (text : List Char)
    (ps : List Piece) :
    placeholdersFrom offset before (text.map .char ++ ps) =
      placeholdersFrom (offset + byteLength text) (text.getLast?.or before) ps := by
  induction text generalizing offset before with
  | nil => rfl
  | cons c text ih =>
      have hlast : (c :: text).getLast?.or before = text.getLast?.or (some c) := by
        rw [List.getLast?_cons]
        cases text.getLast? <;> rfl
      rw [List.map_cons, List.cons_append, placeholdersFrom, ih, hlast, byteLength_cons,
        Nat.add_assoc]

/-- Where all holes have values, a template consists of segments that are filled one by one. -/
theorem exists_filled (dialect : Dialect) {b : Bindings} (ps : List Piece)
    (hvalues : ∀ name ∈ holeNames ps, b.lacks name = false) :
    ∃ items last, ps.flatMap Piece.source = sourceText items last ∧
      fillPieces dialect b ps = .ok (filledText items last) ∧ Filled dialect b last items ∧
      ∀ offset before, (placeholdersFrom offset before ps).map (fun p => (p.start, p.name)) =
        positions offset items := by
  induction ps using segment_induction dialect with
  | last text =>
      refine ⟨[], text, ?_, fillPieces_chars dialect text, trivial, fun offset before => ?_⟩
      · have hsource := flatMap_source_chars text []
        rwa [List.append_nil, List.flatMap_nil, List.append_nil] at hsource
      · rw [← List.append_nil (text.map Piece.char), placeholdersFrom_chars]
        rfl
  | bare text name rest hkept ih =>
      rw [holeNames_chars] at hvalues
      rcases Bindings.exists_value (hvalues name List.mem_cons_self) with ⟨v, hv⟩
      rcases ih fun n hn => hvalues n (List.mem_cons_of_mem _ hn) with
        ⟨items, last, hsource, hfill, hfilled, hpositions⟩
      -- the characters around the hole are the same in the segments and in the pieces
      have hquote : (Segment.mk text none name).quote? (sourceText items last) =
          enclosingQuote? text.getLast? (nextChar rest) := by
        rw [← hsource, ← enclosingQuote?_head?]
        simp [Segment.quote?]
      refine ⟨(⟨text, none, name⟩, rendering dialect
        (enclosingQuote? text.getLast? (nextChar rest)) v) :: items, last, ?_, ?_, ?_, ?_⟩
      · rw [flatMap_source_chars, List.flatMap_cons, hsource]
        simp [sourceText, Segment.source]
      · rw [fillPieces_hole hkept, hv, hfill]
        simp [bind, Except.bind, filledText]
      · refine ⟨?_, ⟨v, hv, ?_⟩, hfilled⟩
        · rw [hquote, hkept]
        · rw [hquote]
      · intro offset before
        rw [placeholdersFrom_chars, placeholdersFrom, List.map_cons, hpositions, positions]
        simp [Segment.source, byteLength_append, Nat.add_assoc]
  | quoted hxml text q name rest hq ih =>
      subst hxml
      rw [holeNames_chars] at hvalues
      rcases Bindings.exists_value (hvalues name List.mem_cons_self) with ⟨v, hv⟩
      rcases ih fun n hn => hvalues n (List.mem_cons_of_mem _ hn) with
        ⟨items, last, hsource, hfill, hfilled, hpositions⟩
      have hquote : (Segment.mk text (some q) name).quote? (sourceText items last) = some q := by
        simp [Segment.quote?, enclosingQuote?, hq]
      refine ⟨(⟨text, some q, name⟩, rendering .xml (some q) v) :: items, last, ?_, ?_, ?_, ?_⟩
      · rw [flatMap_source_chars, List.flatMap_cons, List.flatMap_cons, List.flatMap_cons, hsource]
        simp [sourceText, Segment.source, Piece.source]
      · rw [fillPieces_quoted hq, hv, hfill]
        simp [bind, Except.bind, filledText]
      · refine ⟨?_, ⟨v, hv, ?_⟩, hfilled⟩
        · rw [hquote]
          rfl
        · rw [hquote]
      · intro offset before
        rw [placeholdersFrom_chars, placeholdersFrom, placeholdersFrom, placeholdersFrom,
          List.map_cons, hpositions, positions]
        simp [Segment.source, byteLength_append, byteLength_cons, Text.byteLength_nil,
          Nat.add_assoc]

/-! ## Filling by a cursor -/

/--
Fill a template by its placeholders, from a byte offset on. What stands between the offset and the
next hole is a slice of the template, and a quote counts only if it stands in it. A quote that is
dropped takes up one byte on both sides of the hole.
-/
def assemble (dialect : Dialect) (b : Bindings) (cs : List Char) :
    (cursor : Nat) → List Placeholder → Option (Except String (List Char))
  | cursor, [] => (Text.slice? cs cursor (byteLength cs)).map .ok
  | cursor, p :: more =>
    match b.value p.name with
    | .error name => some (.error name)
    | .ok v => do
      let quote := if cursor < p.start then enclosingQuote? p.before p.after else none
      let width := (droppedQuote dialect quote).toList.length
      let kept ← Text.slice? cs cursor (p.start - width)
      let filled ← assemble dialect b cs (p.stop + width) more
      some (filled.map (kept ++ rendering dialect quote v ++ ·))

theorem utf8Size_of_isQuote {q : Char} (hq : isQuote q = true) : q.utf8Size = 1 := by
  rcases isQuote_iff.1 hq with rfl | rfl
  · decide
  · decide

/-- Behind the cursor no quote counts; before it the text and the hole decide. -/
theorem quote_after_cursor (cursor : Nat) (text : List Char) (before : Option Char)
    (rest : List Piece) :
    (if cursor < cursor + byteLength text then
      enclosingQuote? (text.getLast?.or before) (rest.flatMap Piece.source).head?
    else none) = enclosingQuote? text.getLast? (nextChar rest) := by
  cases text with
  | nil => simp [Text.byteLength_nil, enclosingQuote?_none]
  | cons c text =>
      have hpos := c.utf8Size_pos
      have hlt : cursor < cursor + byteLength (c :: text) := by
        rw [byteLength_cons]
        omega
      rw [if_pos hlt, enclosingQuote?_head?, List.getLast?_cons, Option.some_or]

/-- One step of the cursor: a slice, a rendering, and what is assembled after the hole. -/
theorem assemble_cons {dialect : Dialect} {b : Bindings} {cs kept : List Char} {cursor : Nat}
    {p : Placeholder} {more : List Placeholder} {quote : Option Char}
    {filled : Except String (List Char)}
    (hquote : (if cursor < p.start then enclosingQuote? p.before p.after else none) = quote)
    (hkept : Text.slice? cs cursor (p.start - (droppedQuote dialect quote).toList.length) =
      some kept)
    (hmore : assemble dialect b cs (p.stop + (droppedQuote dialect quote).toList.length) more =
      some filled) :
    assemble dialect b cs cursor (p :: more) = some (do
      let v ← b.value p.name
      let more ← filled
      .ok (kept ++ rendering dialect quote v ++ more)) := by
  cases hvalue : b.value p.name with
  | error name =>
      rw [assemble, hvalue]
      rfl
  | ok v =>
      simp only [assemble, hvalue, hquote, hkept, hmore, Option.bind_eq_bind, Option.bind_some]
      cases filled <;> simp [bind, Except.bind, Except.map]

/-- Filling by a cursor takes slices of the template only, and fills it as filling by pieces. -/
theorem assemble_eq {dialect : Dialect} {b : Bindings} {cs front : List Char} (ps : List Piece)
    (hcs : cs = front ++ ps.flatMap Piece.source) (before : Option Char) :
    assemble dialect b cs (byteLength front) (placeholdersFrom (byteLength front) before ps) =
      some (fillPieces dialect b ps) := by
  induction ps using segment_induction dialect generalizing front before with
  | last text =>
      have hsource := flatMap_source_chars text []
      rw [List.append_nil, List.flatMap_nil, List.append_nil] at hsource
      rw [hsource] at hcs
      have hall : Text.slice? cs (byteLength front) (byteLength cs) = some text :=
        Text.slice?_eq_some_iff.2
          ⟨front, [], by rw [hcs, List.append_nil], rfl, by rw [hcs, byteLength_append]⟩
      rw [fillPieces_chars, ← List.append_nil (text.map Piece.char), placeholdersFrom_chars,
        placeholdersFrom, assemble, hall]
      rfl
  | bare text name rest hkept ih =>
      rw [flatMap_source_chars, List.flatMap_cons] at hcs
      have hslice : Text.slice? cs (byteLength front) (byteLength front + byteLength text) =
          some text :=
        Text.slice?_eq_some_iff.2 ⟨front, _, by rw [hcs, ← List.append_assoc], rfl, rfl⟩
      have hmore := @ih (front ++ text ++ (Piece.hole name).source) (by simp [hcs]) (some '\x7d')
      rw [byteLength_append, byteLength_append] at hmore
      rw [fillPieces_hole hkept, placeholdersFrom_chars, placeholdersFrom]
      -- without quotes to drop, the slice ends at the hole
      exact assemble_cons (quote_after_cursor _ text before rest) (by rwa [hkept])
        (by rwa [hkept])
  | quoted hxml text q name rest hq ih =>
      subst hxml
      -- the opening quote ends the text before the hole, and the slice ends before it
      have htext : text.map Piece.char ++ .char q :: .hole name :: .char q :: rest =
          (text ++ [q]).map .char ++ .hole name :: .char q :: rest := by simp
      have hsize := utf8Size_of_isQuote hq
      have hquote := quote_after_cursor (byteLength front) (text ++ [q]) before (.char q :: rest)
      have hends : enclosingQuote? (text ++ [q]).getLast? (nextChar (.char q :: rest)) =
          some q := by simp [enclosingQuote?, nextChar, hq]
      have hstart : byteLength front + byteLength (text ++ [q]) - 1 =
          byteLength front + byteLength text := by
        rw [byteLength_append, byteLength_cons, hsize, Text.byteLength_nil]
        omega
      rw [htext, flatMap_source_chars, List.flatMap_cons, List.flatMap_cons] at hcs
      have hslice : Text.slice? cs (byteLength front)
          (byteLength front + byteLength (text ++ [q]) - 1) = some text := by
        rw [hstart]
        exact Text.slice?_eq_some_iff.2
          ⟨front, q :: ((Piece.hole name).source ++ q :: rest.flatMap Piece.source),
            by simp [hcs, Piece.source], rfl, rfl⟩
      have hmore := @ih (front ++ (text ++ [q]) ++ (Piece.hole name).source ++ [q])
        (by simp [hcs, Piece.source]) (some q)
      rw [byteLength_append, byteLength_append, byteLength_append front, byteLength_cons,
        hsize, Text.byteLength_nil, Nat.add_zero] at hmore
      rw [hends] at hquote
      rw [fillPieces_quoted hq, htext, placeholdersFrom_chars, placeholdersFrom, placeholdersFrom,
        hsize]
      exact assemble_cons hquote hslice hmore

/-! ## The laws of filling -/

/--
Filling replaces the placeholders of a template and nothing else. The placeholders are all holes of
the text, from left to right. Filling fails exactly if one of them has no value, with the first such
name. Otherwise the text between them is kept and each becomes one rendering of its value, with the
quotes directly around it in a path, of which none goes with two holes. A cursor that moves over the
byte offsets of the placeholders takes slices of the template only, and gives the same.
-/
theorem fill_replaces_placeholders (dialect : Dialect) (b : Bindings) (s : String) :
    (∀ p, p ∈ placeholders s ↔
      ∃ front back, s.toList = front ++ (Piece.hole p.name).source ++ back ∧
        p.StandsBetween front back) ∧
    ((placeholders s).Pairwise fun p q => p.stop ≤ q.start) ∧
    (∀ name, fill dialect b s = .error name ↔
      ((placeholders s).map Placeholder.name).find? b.lacks = some name) ∧
    ((∀ p ∈ placeholders s, b.lacks p.name = false) →
      ∃ items last, s.toList = sourceText items last ∧
        fill dialect b s = .ok (String.ofList (filledText items last)) ∧
        Filled dialect b last items ∧
        (placeholders s).map (fun p => (p.start, p.name)) = positions 0 items) ∧
    assemble dialect b s.toList 0 (placeholders s) =
      some ((fill dialect b s).map String.toList) := by
  have hsource := flatMap_source_pieces s.toList
  refine ⟨fun p => mem_placeholders_iff s, pairwise_placeholdersFrom 0 none _, fun name => ?_,
    fun hvalues => ?_, ?_⟩
  · rw [fill_eq_fillPieces, Except.map_eq_error_iff, fillPieces_eq_error_iff, placeholders,
      map_name_placeholdersFrom]
  · have hnames : ∀ name ∈ holeNames (pieces s.toList), b.lacks name = false := by
      intro name hname
      rw [← map_name_placeholdersFrom 0 none] at hname
      rcases List.mem_map.1 hname with ⟨p, hp, rfl⟩
      exact hvalues p hp
    rcases exists_filled dialect (pieces s.toList) hnames with
      ⟨items, last, htext, hfill, hfilled, hpositions⟩
    refine ⟨items, last, ?_, ?_, hfilled, hpositions 0 none⟩
    · rw [← htext, hsource]
    · rw [fill_eq_fillPieces, hfill]
      rfl
  · have hcursor := @assemble_eq dialect b s.toList [] (pieces s.toList) hsource.symm none
    rw [Text.byteLength_nil] at hcursor
    rw [placeholders, hcursor, fill_eq_fillPieces]
    cases fillPieces dialect b (pieces s.toList) <;> simp [Except.map]

/-- A path in which a quote stands between two holes, a hole stands in a third pair of braces, and a
character takes up more than one byte. -/
def sharedQuote : String :=
  "é'\x7b\x7ba\x7d\x7d'\x7b\x7bb\x7d\x7d'\x7b\x7b\x7ba\x7d\x7d\x7d"

def holeInValue : Bindings where
  values := [("a", .string "\x7b\x7bb\x7d\x7d"), ("b", .number (.integer 7))]
  types := []

/-- Placeholders that share a quote, with braces in a value. -/
theorem fill_replaces_placeholders_of_sharedQuote :
    (∀ p ∈ placeholders sharedQuote, holeInValue.lacks p.name = false) ∧
      (∃ items last, sharedQuote.toList = sourceText items last ∧
        fill .xml holeInValue sharedQuote = .ok (String.ofList (filledText items last)) ∧
        Filled .xml holeInValue last items ∧
        (placeholders sharedQuote).map (fun p => (p.start, p.name)) = positions 0 items) ∧
      (fill .xml holeInValue sharedQuote).toOption =
        some "é\"\x7b\x7bb\x7d\x7d\"7'\x7b\"\x7b\x7bb\x7d\x7d\"\x7d" := by
  have hvalues : ∀ p ∈ placeholders sharedQuote, holeInValue.lacks p.name = false := by
    decide +kernel
  have hlaws := fill_replaces_placeholders .xml holeInValue sharedQuote
  exact ⟨hvalues, hlaws.2.2.2.1 hvalues, by decide +kernel⟩

end Template
end Gleaner
