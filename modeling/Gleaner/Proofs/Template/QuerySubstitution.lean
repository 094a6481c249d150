import Gleaner.Proofs.Query.Literal
import Gleaner.Proofs.Sequencing
import Gleaner.Proofs.Template.Cutting
/-!
# Values in queries

A query template is code with slots for values between the parts of the code. Filling it replaces
each slot by one string literal, and lexing the result gives the tokens of the parts with one string
token for each slot.

* `QueryTemplate` is such a template, `QueryTemplate.WellFormed` what is asked of one;
* `fillQuery_parts`: each slot becomes a literal;
* `tokens?_append_parts`: each literal becomes a token;
* `fill_query_tokens`: both together.
-/

namespace Gleaner
namespace Template

open Query (Token Lexeme lex tokens?)

/-! ## Templates of queries -/

inductive Slot where
  -- A hole that stands in the code.
  | bare (name : String)
  -- A hole that is the whole content of a string literal.
  | quoted (name : String)
  deriving DecidableEq, Repr

namespace Slot

def name : Slot → String
  | bare n => n
  | quoted n => n

def isBare : Slot → Bool
  | bare _ => true
  | quoted _ => false

def source : Slot → List Char
  | bare n => (Piece.hole n).source
  | quoted n => '"' :: (Piece.hole n).source ++ ['"']

def pieces : Slot → List Piece
  | bare n => [.hole n]
  | quoted n => [.char '"', .hole n, .char '"']

/-- A bare slot takes strings, a quoted one takes any value. -/
inductive Suits (b : Bindings) : Slot → Prop where
  | bare {n s : String} : b.value n = .ok (.string s) → Suits b (bare n)
  | quoted {n : String} {v : Json} : b.value n = .ok v → Suits b (quoted n)

def text (b : Bindings) (slot : Slot) : String :=
  match b.value slot.name with
  | .ok v => v.text
  | .error _ => ""

end Slot

/-- A slot and the code after it, up to the next slot. -/
structure Part where
  slot : Slot
  code : List Char

namespace Part

def source (part : Part) : List Char :=
  part.slot.source ++ part.code

def pieces (part : Part) : List Piece :=
  part.slot.pieces ++ part.code.map .char

def filled (b : Bindings) (part : Part) : List Char :=
  '"' :: Json.escaped (part.slot.text b).toList ++ '"' :: part.code

/-- The tokens of a part: one for the slot and those of the code. -/
def tokens (b : Bindings) (part : Part) : List Token :=
  .str (part.slot.text b) :: (tokens? part.code).getD []

end Part

/-- After the text `before`, no bare slot stands directly between two double quotes. -/
def SlotsApart : (before : List Char) → List Part → Prop
  | _, [] => True
  | before, part :: parts =>
    ¬ (part.slot.isBare ∧ before.getLast? = some '"' ∧
      (part.code ++ parts.flatMap Part.source).head? = some '"') ∧
    SlotsApart (before ++ part.source) parts

/-- Code with slots for values. -/
structure QueryTemplate where
  first : List Char
  parts : List Part

namespace QueryTemplate

def segments (t : QueryTemplate) : List (List Char) :=
  t.first :: t.parts.map Part.code

def source (t : QueryTemplate) : List Char :=
  t.first ++ t.parts.flatMap Part.source

/-- Each segment can be lexed and has no holes, and each slot has a name and stands apart. -/
structure WellFormed (t : QueryTemplate) : Prop where
  lexes : ∀ code ∈ t.segments, (tokens? code).isSome
  noHoles : ∀ code ∈ t.segments, ∀ name, Piece.hole name ∉ Template.pieces code
  named : ∀ part ∈ t.parts, Text.isName part.slot.name = true
  apart : SlotsApart t.first t.parts

end QueryTemplate

/-! ## Cutting -/

theorem setsApart_slot (slot : Slot) (rest : List Char) : SetsApart (slot.source ++ rest) := by
  cases slot with
  | bare n =>
      refine .inr ⟨n.toList ++ ['\x7d', '\x7d'] ++ rest, .inr ?_⟩
      simp [Slot.source, Piece.source]
  | quoted n => exact .inr ⟨_, .inl rfl⟩

theorem setsApart_parts (parts : List Part) : SetsApart (parts.flatMap Part.source) := by
  cases parts with
  | nil => exact .inl rfl
  | cons part parts =>
      rw [List.flatMap_cons, Part.source, List.append_assoc]
      exact setsApart_slot part.slot _

theorem pieces_quote (cs : List Char) : pieces ('"' :: cs) = .char '"' :: pieces cs :=
  pieces_cons (holeAt?_of_ne (by decide) cs)

/-- A slot is cut into its hole and the quotes around it. -/
theorem pieces_slot {slot : Slot} (hname : Text.isName slot.name = true) (rest : List Char) :
    pieces (slot.source ++ rest) = slot.pieces ++ pieces rest := by
  cases slot with
  | bare n => exact pieces_hole hname rest
  | quoted n =>
      have hassoc : (Slot.quoted n).source ++ rest =
          '"' :: ((Piece.hole n).source ++ '"' :: rest) := by simp [Slot.source]
      have hhole : pieces ((Piece.hole n).source ++ '"' :: rest) =
          .hole n :: pieces ('"' :: rest) := pieces_hole hname _
      rw [hassoc, pieces_quote, hhole, pieces_quote]
      rfl

/-- Parts are cut into the pieces of their code and slots. -/
theorem pieces_parts {parts : List Part}
    (hnames : ∀ part ∈ parts, Text.isName part.slot.name = true)
    (hholes : ∀ part ∈ parts, ∀ name, Piece.hole name ∉ pieces part.code) :
    pieces (parts.flatMap Part.source) = parts.flatMap Part.pieces := by
  induction parts with
  | nil => exact pieces_nil
  | cons part parts ih =>
      have hrest := ih (fun p hp => hnames p (List.mem_cons_of_mem _ hp))
        fun p hp => hholes p (List.mem_cons_of_mem _ hp)
      have hcode := pieces_of_no_holes (hholes part List.mem_cons_self)
      have hslot := pieces_slot (hnames part List.mem_cons_self)
        (part.code ++ parts.flatMap Part.source)
      calc
        pieces ((part :: parts).flatMap Part.source)
            = pieces (part.slot.source ++ (part.code ++ parts.flatMap Part.source)) := by
              rw [List.flatMap_cons, Part.source, List.append_assoc]
        _ = part.slot.pieces ++ (pieces part.code ++ pieces (parts.flatMap Part.source)) := by
              rw [hslot, pieces_append (setsApart_parts parts)]
        _ = part.slot.pieces ++ (part.code.map .char ++ parts.flatMap Part.pieces) := by
              rw [hcode, hrest]
        _ = (part :: parts).flatMap Part.pieces := by
              rw [List.flatMap_cons, Part.pieces, List.append_assoc]

/-- A well-formed template is cut into the characters of its code and its holes. -/
theorem QueryTemplate.WellFormed.pieces {t : QueryTemplate} (h : t.WellFormed) :
    Template.pieces t.source = t.first.map .char ++ t.parts.flatMap Part.pieces := by
  have hfirst := pieces_of_no_holes (h.noHoles t.first List.mem_cons_self)
  have hparts := pieces_parts h.named fun part hpart =>
    h.noHoles part.code (List.mem_cons_of_mem _ (List.mem_map_of_mem hpart))
  rw [QueryTemplate.source, pieces_append (setsApart_parts t.parts), hfirst, hparts]

/-! ## Filling -/

/-- Code is filled to itself; its last character stands before what follows. -/
theorem fillQuery_chars (b : Bindings) (before : Option Char) (cs : List Char) (ps : List Piece) :
    fillQuery b before (cs.map .char ++ ps) =
      (fillQuery b (cs.getLast?.or before) ps).map (cs ++ ·) := by
  induction cs generalizing before with
  | nil =>
      show fillQuery b before ps = (fillQuery b before ps).map ([] ++ ·)
      cases fillQuery b before ps <;> rfl
  | cons c cs ih =>
      have hlast : (c :: cs).getLast?.or before = cs.getLast?.or (some c) := by
        rw [List.getLast?_cons]
        cases cs.getLast? <;> rfl
      rw [List.map_cons, List.cons_append, fillQuery, ih, hlast]
      cases fillQuery b (cs.getLast?.or (some c)) ps <;> rfl

/-- The character at the front of some pieces, if they begin with one. -/
def nextChar : List Piece → Option Char
  | .char c :: _ => some c
  | _ => none

/-- A hole is filled by the value's literal, with quotes unless quotes stand around it. -/
theorem fillQuery_hole (b : Bindings) (before : Option Char) (name : String) (rest : List Piece) :
    fillQuery b before (.hole name :: rest) = (do
      let here ← (b.value name).map (jsonLiteral (enclosingQuote? before (nextChar rest)))
      let more ← fillQuery b none rest
      .ok (here ++ more)) := by
  have hunfold : fillQuery b before (.hole name :: rest) = (do
      let v ← b.value name
      let more ← fillQuery b none rest
      .ok (jsonLiteral (enclosingQuote? before (nextChar rest)) v ++ more)) := by
    cases rest with
    | nil => rfl
    | cons p rest => cases p <;> rfl
  rw [hunfold]
  cases b.value name <;> rfl

/-- A string written as JSON is one literal. -/
theorem compact_string (s : String) :
    (Json.string s).compact.toList = '"' :: Json.escaped s.toList ++ ['"'] := by
  simp [Json.compact, Json.writtenString]

/-- A quote encloses only if it stands on both sides. -/
theorem enclosingQuote?_eq_some {before after : Option Char} {q : Char}
    (h : enclosingQuote? before after = some q) :
    before = some q ∧ after = some q ∧ isQuote q = true := by
  unfold enclosingQuote? at h
  split at h
  · split at h
    · rename_i hboth
      simp only [Bool.and_eq_true, decide_eq_true_eq] at hboth
      cases h
      exact ⟨rfl, by rw [hboth.1], hboth.2⟩
    · cases h
  · cases h

/-- A string that does not stand between two double quotes gets quotes of its own. -/
theorem jsonLiteral_bare {before after : Option Char}
    (h : ¬ (before = some '"' ∧ after = some '"')) (s : String) :
    jsonLiteral (enclosingQuote? before after) (.string s) =
      '"' :: Json.escaped s.toList ++ ['"'] := by
  have hquote : enclosingQuote? before after ≠ some '"' := by
    intro henclosed
    rcases enclosingQuote?_eq_some henclosed with ⟨hbefore, hafter, _⟩
    exact h ⟨hbefore, hafter⟩
  rw [jsonLiteral, if_neg hquote, compact_string]

/-- A value between two double quotes becomes the inside of a literal. -/
theorem jsonLiteral_quoted (v : Json) :
    jsonLiteral (enclosingQuote? (some '"') (some '"')) v = Json.escaped v.text.toList :=
  rfl

/-- A quote as the next piece of a template is the next character of its source. -/
theorem head?_of_nextChar {code : List Char} {parts : List Part}
    (h : nextChar (code.map .char ++ parts.flatMap Part.pieces) = some '"') :
    (code ++ parts.flatMap Part.source).head? = some '"' := by
  cases code with
  | cons c code => exact h
  | nil =>
      cases parts with
      | nil => cases h
      | cons part parts =>
          rcases part with ⟨slot, code⟩
          cases slot with
          | bare n => cases h
          | quoted n => rfl

/-- Each slot is filled with one literal. -/
theorem fillQuery_parts {b : Bindings} {parts : List Part}
    (hsuits : ∀ part ∈ parts, part.slot.Suits b) {done : List Char} {before : Option Char}
    (hbefore : before = some '"' → done.getLast? = some '"') (hapart : SlotsApart done parts) :
    fillQuery b before (parts.flatMap Part.pieces) = .ok (parts.flatMap (Part.filled b)) := by
  induction parts generalizing done before with
  | nil => rfl
  | cons part parts ih =>
      rcases part with ⟨slot, code⟩
      have hrest : ∀ before', (before' = some '"' →
          (done ++ (Part.mk slot code).source).getLast? = some '"') →
          fillQuery b before' (parts.flatMap Part.pieces) =
            .ok (parts.flatMap (Part.filled b)) := fun before' hlast =>
        ih (fun p hp => hsuits p (List.mem_cons_of_mem _ hp)) hlast hapart.2
      cases hsuits _ List.mem_cons_self with
      | @bare n s hvalue =>
          -- the slot stands apart, so the string gets quotes of its own
          have hbetween : ¬ (before = some '"' ∧
              nextChar (code.map .char ++ parts.flatMap Part.pieces) = some '"') := by
            rintro ⟨hleft, hright⟩
            exact hapart.1 ⟨rfl, hbefore hleft, head?_of_nextChar hright⟩
          have htext : (Slot.bare n).text b = s := by
            simp [Slot.text, Slot.name, hvalue, Json.text]
          have hcode := hrest (code.getLast?.or none) fun hlast => by
            rw [Option.or_none] at hlast
            rw [Part.source, ← List.append_assoc, List.getLast?_append, hlast, Option.some_or]
          rw [List.flatMap_cons, Part.pieces, Slot.pieces, List.append_assoc, List.singleton_append,
            fillQuery_hole, hvalue, fillQuery_chars, hcode]
          simp [bind, Except.bind, Except.map, jsonLiteral_bare hbetween, Part.filled, htext]
      | @quoted n v hvalue =>
          -- the quotes of the template stay and the value goes between them
          have htext : (Slot.quoted n).text b = v.text := by simp [Slot.text, Slot.name, hvalue]
          have hcode := hrest (code.getLast?.or (some '"')) fun hlast => by
            rw [Part.source, Slot.source, ← List.append_assoc, List.getLast?_append,
              ← List.append_assoc, List.getLast?_append]
            simpa using hlast
          have hquotes : (Part.mk (.quoted n) code).pieces ++ parts.flatMap Part.pieces =
              .char '"' :: .hole n :: .char '"' ::
                (code.map .char ++ parts.flatMap Part.pieces) := by
            simp [Part.pieces, Slot.pieces]
          rw [List.flatMap_cons, hquotes, fillQuery, fillQuery_hole, hvalue, fillQuery,
            fillQuery_chars, hcode]
          simp [bind, Except.bind, Except.map, Part.filled, htext, nextChar, jsonLiteral_quoted]

/-! ## Lexing the filled template -/

/-- A written string is lexed as that string. -/
theorem tokens?_written (s : String) (more : List Char) :
    tokens? ('"' :: Json.escaped s.toList ++ '"' :: more) =
      (tokens? more).map (Token.str s :: ·) := by
  have hbody := Json.stringBody_escaped s.toList
  rw [Query.tokens?_literal (Query.openAfter?_of_stringBody hbody), Json.readString?_escaped,
    String.ofList_toList]
  rfl

/-- The filled parts are lexed one after the other, each as its own tokens. -/
theorem tokens?_append_parts {b : Bindings} {parts : List Part}
    (hlexes : ∀ part ∈ parts, (tokens? part.code).isSome) {code : List Char} {ts : List Token}
    (hcode : tokens? code = some ts) :
    tokens? (code ++ parts.flatMap (Part.filled b)) =
      some (ts ++ parts.flatMap (Part.tokens b)) := by
  induction parts generalizing code ts with
  | nil => simpa using hcode
  | cons part parts ih =>
      rcases Option.isSome_iff_exists.1 (hlexes part List.mem_cons_self) with ⟨us, hus⟩
      have hrest := ih (fun p hp => hlexes p (List.mem_cons_of_mem _ hp)) hus
      have hliteral := tokens?_written (part.slot.text b)
        (part.code ++ parts.flatMap (Part.filled b))
      -- the code before the slot can be lexed, so its literals are closed
      have hclosed := Query.place_of_tokens? hcode
      calc
        tokens? (code ++ (part :: parts).flatMap (Part.filled b))
            = tokens? (code ++ '"' :: (Json.escaped (part.slot.text b).toList ++
                '"' :: (part.code ++ parts.flatMap (Part.filled b)))) := by simp [Part.filled]
        _ = (tokens? ('"' :: Json.escaped (part.slot.text b).toList ++
                '"' :: (part.code ++ parts.flatMap (Part.filled b)))).map (ts ++ ·) := by
              rw [Query.tokens?_append_quote hclosed, hcode]
              rfl
        _ = some (ts ++ .str (part.slot.text b) :: (us ++ parts.flatMap (Part.tokens b))) := by
              rw [hliteral, hrest]
              rfl
        _ = some (ts ++ (part :: parts).flatMap (Part.tokens b)) := by simp [Part.tokens, hus]

/-! ## Filling and lexing -/

/--
A filled template is lexed to the tokens of its code, with one string token in place of each slot.
-/
theorem fill_query_tokens (b : Bindings) (t : QueryTemplate) (ht : t.WellFormed)
    (hsuits : ∀ part ∈ t.parts, part.slot.Suits b) :
    ∃ text ls, fill .json b (String.ofList t.source) = .ok text ∧ lex text.toList = .ok ls ∧
      ls.map Lexeme.token = (tokens? t.first).getD [] ++ t.parts.flatMap (Part.tokens b) := by
  rcases Option.isSome_iff_exists.1 (ht.lexes t.first List.mem_cons_self) with ⟨ts, hts⟩
  have hlexes : ∀ part ∈ t.parts, (tokens? part.code).isSome := fun part hpart =>
    ht.lexes part.code (List.mem_cons_of_mem _ (List.mem_map_of_mem hpart))
  -- the filled text in parts, and then its tokens part by part
  have hfilled : fillQuery b none (pieces t.source) =
      .ok (t.first ++ t.parts.flatMap (Part.filled b)) := by
    have hlast : t.first.getLast?.or none = some '"' → t.first.getLast? = some '"' := by
      rw [Option.or_none]
      exact id
    rw [ht.pieces, fillQuery_chars, fillQuery_parts hsuits hlast ht.apart]
    rfl
  have htokens := tokens?_append_parts (b := b) hlexes hts
  rcases Query.tokens?_eq_some_iff.1 htokens with ⟨ls, hls, hmap⟩
  refine ⟨String.ofList (t.first ++ t.parts.flatMap (Part.filled b)), ls, ?_, ?_, ?_⟩
  · rw [fill, String.toList_ofList, hfilled]
    rfl
  · rwa [String.toList_ofList]
  · rw [hmap, hts, Option.getD_some]

/-- A comparison with two slots, the second of them between quotes. -/
def twoSlots : QueryTemplate where
  first := ".rows[].name == ".toList
  parts :=
    [⟨.bare "name", " and .note == ".toList⟩, ⟨.quoted "note", " or .x == \"a\\\"\"".toList⟩]

/-- The template of two slots is lexed between its slots. -/
theorem twoSlots_wellFormed : twoSlots.WellFormed where
  lexes := by decide +kernel
  noHoles := by
    -- the segments are cut into characters only
    have hcut : ∀ code ∈ twoSlots.segments, pieces code = code.map .char := by decide +kernel
    intro code hcode name hmem
    rw [hcut code hcode] at hmem
    simp at hmem
  named := by decide +kernel
  apart := by
    refine ⟨?_, ?_, trivial⟩
    · decide +kernel
    · decide +kernel

/-- Values with quotes, backslashes, line breaks and braces, and one that is no string. -/
def awkwardValues : Bindings where
  values := [("name", .string "a\" or \\ \n\x7b"), ("note", .array [.string "\"", .null])]
  types := []

/-- A text is put into the open slot, and a list into the quoted one. -/
theorem awkwardValues_suit : ∀ part ∈ twoSlots.parts, part.slot.Suits awkwardValues := by
  have hname : awkwardValues.value "name" = .ok (.string "a\" or \\ \n\x7b") :=
    Bindings.value_eq_convert rfl
  have hnote : awkwardValues.value "note" = .ok (.array [.string "\"", .null]) :=
    Bindings.value_eq_convert (by simp [awkwardValues, Members.get?])
  refine List.forall_mem_cons.2 ⟨.bare hname, List.forall_mem_cons.2 ⟨.quoted hnote, ?_⟩⟩
  intro part hpart
  cases hpart

theorem fill_query_tokens_of_awkwardValues :
    twoSlots.WellFormed ∧ (∀ part ∈ twoSlots.parts, part.slot.Suits awkwardValues) ∧
      ∃ text ls, fill .json awkwardValues (String.ofList twoSlots.source) = .ok text ∧
        lex text.toList = .ok ls ∧
        ls.map Lexeme.token = (tokens? twoSlots.first).getD [] ++
          twoSlots.parts.flatMap (Part.tokens awkwardValues) :=
  ⟨twoSlots_wellFormed, awkwardValues_suit,
    fill_query_tokens awkwardValues twoSlots twoSlots_wellFormed awkwardValues_suit⟩

end Template
end Gleaner
