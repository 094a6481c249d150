import Gleaner.Proofs.Json.PlainNumeral
import Gleaner.Proofs.Sequencing
import Gleaner.Proofs.Template.Cutting
import Gleaner.Proofs.Text.Names
import Gleaner.Proofs.XPath.StringExpression
/-!
# Values in paths

A literal of the path language cannot hold its own quote, so a value between two equal quotes takes
their place together with its own. Where every hole stands in the code or is the whole content of a
literal, filling replaces it by one complete expression and leaves all else as it was.

* `WellPlaced` says where the holes may stand;
* `Stretch` is a part of a template that is kept or replaced, `Stretch.Becomes` what replaces it;
* `exists_stretches`: filling goes through a template stretch by stretch;
* `fill_path_stretches`: the result, and how its literals lie.
-/

namespace Gleaner
namespace Template

open Json (PlainNumeral)
open XPath (StringExpression literalNext literalAfter)

/-! ## Templates of paths -/

/--
Where literals are scanned from a state, after a given character, every hole stands outside of them
and not directly between two equal quotes, or is the whole content of one.
-/
def WellPlaced : (state before : Option Char) → List Piece → Prop
  | _, _, [] => True
  | state, _, .char c :: rest => WellPlaced (literalNext state c) (some c) rest
  | state, before, .hole _ :: rest =>
    (match state with
      | none => enclosingQuote? before (rest.flatMap Piece.source).head? = none
      | some q => before = some q ∧ (rest.flatMap Piece.source).head? = some q) ∧
    WellPlaced state (some '\x7d') rest

instance decidableWellPlaced :
    ∀ (state before : Option Char) (ps : List Piece), Decidable (WellPlaced state before ps)
  | _, _, [] => isTrue trivial
  | state, _, .char c :: rest => decidableWellPlaced (literalNext state c) (some c) rest
  | none, _, .hole _ :: rest =>
    have := decidableWellPlaced none (some '\x7d') rest
    inferInstanceAs (Decidable (_ ∧ _))
  | some q, _, .hole _ :: rest =>
    have := decidableWellPlaced (some q) (some '\x7d') rest
    inferInstanceAs (Decidable ((_ ∧ _) ∧ _))

/-- A part of a template: a character that stays, or a hole with or without quotes around it. -/
inductive Stretch where
  | kept (c : Char)
  | replaced (quote : Option Char) (name : String)
  deriving DecidableEq, Repr

namespace Stretch

def pieces : Stretch → List Piece
  | kept c => [.char c]
  | replaced none name => [.hole name]
  | replaced (some q) name => [.char q, .hole name, .char q]

def source (s : Stretch) : List Char :=
  s.pieces.flatMap Piece.source

/-- Whether a value takes the place of a stretch. -/
def isReplaced : Stretch → Bool
  | kept _ => false
  | replaced _ _ => true

end Stretch

/-- A complete expression of the path language for a value, in place of a hole and its quotes. -/
inductive PathExpression : (quote : Option Char) → Json → List Char → Prop where
  -- Between quotes every value is a string.
  | quoted {q : Char} {v : Json} {text : List Char} :
      StringExpression text v.text.toList → PathExpression (some q) v text
  | string {v : Json} {text : List Char} :
      (∀ n, v ≠ .number n) → (∀ b, v ≠ .bool b) → StringExpression text v.text.toList →
        PathExpression none v text
  | number {n : Number} :
      PlainNumeral n.text.toList → PathExpression none (.number n) n.text.toList
  | true : PathExpression none (.bool Bool.true) "true()".toList
  | false : PathExpression none (.bool Bool.false) "false()".toList

/-- The text that a stretch becomes. -/
inductive Stretch.Becomes (b : Bindings) : Stretch → List Char → Prop where
  | kept (c : Char) : Becomes b (kept c) [c]
  | replaced {quote : Option Char} {name : String} {v : Json} {text : List Char} :
      b.value name = .ok v → PathExpression quote v text → Becomes b (replaced quote name) text

theorem pathExpression_quoted (q : Char) (v : Json) :
    PathExpression (some q) v (XPath.literalChars v.text.toList) :=
  .quoted (XPath.stringExpression_literalChars _)

/-- The text for a value outside of literals is an expression with that value. -/
theorem pathExpression_pathLiteral (v : Json) : PathExpression none v (pathLiteral v) := by
  have hstring := XPath.stringExpression_literalChars v.text.toList
  cases v with
  | number n => exact .number (Json.plainNumeral_text n)
  | bool t =>
      cases t with
      | true => exact .true
      | false => exact .false
  | null => exact .string nofun nofun hstring
  | string s => exact .string nofun nofun hstring
  | array items => exact .string nofun nofun hstring
  | object members => exact .string nofun nofun hstring

/-! ## Scanning over holes and expressions -/

/-- A test that fails for both quotes holds of other characters only. -/
theorem isQuote_of_test {p : Char → Bool} (hquote : p '"' = false) (hapostrophe : p '\'' = false)
    {c : Char} (h : p c = true) : isQuote c = false := by
  refine Bool.eq_false_iff.2 fun hc => ?_
  rcases isQuote_iff.1 hc with rfl | rfl
  · rw [hquote] at h
    cases h
  · rw [hapostrophe] at h
    cases h

theorem isQuote_of_isNameChar {c : Char} : Text.isNameChar c = true → isQuote c = false :=
  isQuote_of_test (by decide) (by decide)

theorem isQuote_of_isDigit {c : Char} : Char.isDigit c = true → isQuote c = false :=
  isQuote_of_test (by decide) (by decide)

/-- The text of a hole has no quotes. -/
theorem isQuote_of_mem_hole {name : String} (hname : Text.isName name = true) :
    ∀ c ∈ (Piece.hole name).source, isQuote c = false := by
  intro c hc
  simp only [Piece.source, List.mem_append, List.mem_cons, List.not_mem_nil, or_false] at hc
  rcases hc with ((rfl | rfl) | hmem) | (rfl | rfl)
  · rfl
  · rfl
  · exact isQuote_of_isNameChar (Text.isNameChar_of_mem hname hmem)
  · rfl
  · rfl

/-- A number has no quotes. -/
theorem isQuote_of_plainNumeral {cs : List Char} (h : PlainNumeral cs) :
    ∀ c ∈ cs, isQuote c = false := by
  have hmagnitude : ∀ {cs}, Json.PlainMagnitude cs → ∀ c ∈ cs, isQuote c = false := by
    intro cs h c hc
    cases h with
    | integer hwhole => exact isQuote_of_isDigit (hwhole.2 c hc)
    | point hwhole hfraction =>
        simp only [List.mem_append, List.mem_cons] at hc
        rcases hc with hmem | rfl | hmem
        · exact isQuote_of_isDigit (hwhole.2 c hmem)
        · rfl
        · exact isQuote_of_isDigit (hfraction.2 c hmem)
  cases h with
  | unsigned h => exact hmagnitude h
  | negative h => exact List.forall_mem_cons.2 ⟨rfl, hmagnitude h⟩

/-- An expression for a value opens no literal that it does not close. -/
theorem literalAfter_pathExpression {quote : Option Char} {v : Json} {text : List Char}
    (h : PathExpression quote v text) : literalAfter none text = none := by
  cases h with
  | quoted h => exact XPath.literalAfter_stringExpression h
  | string _ _ h => exact XPath.literalAfter_stringExpression h
  | number h => exact XPath.literalAfter_code (isQuote_of_plainNumeral h)
  | true => decide
  | false => decide

theorem literalAfter_hole {name : String} (hname : Text.isName name = true) :
    literalAfter none (Piece.hole name).source = none :=
  XPath.literalAfter_code (isQuote_of_mem_hole hname)

/-- A hole that is the whole content of a literal. -/
theorem literalAfter_quoted_hole {name : String} (hname : Text.isName name = true) {q : Char}
    (hq : isQuote q = true) : literalAfter none (Stretch.replaced (some q) name).source = none := by
  have hclosed : q ∉ (Piece.hole name).source := fun hmem => by
    simp [isQuote_of_mem_hole hname q hmem] at hq
  have hsource : (Stretch.replaced (some q) name).source =
      (XPath.Literal.mk q (Piece.hole name).source hq hclosed).text := by
    simp [Stretch.source, Stretch.pieces, XPath.Literal.text, Piece.source]
  rw [hsource, XPath.literalAfter_literal]

/-! ## Stretches -/

/-- Stretches with the texts that they become, scanned for literals from a state. -/
inductive Scanned (b : Bindings) : (state : Option Char) → List (Stretch × List Char) → Prop where
  | nil {state : Option Char} : Scanned b state []
  | kept {state : Option Char} {c : Char} {items : List (Stretch × List Char)} :
      Scanned b (literalNext state c) items → Scanned b state ((.kept c, [c]) :: items)
  | replaced {quote : Option Char} {name : String} {text : List Char}
      {items : List (Stretch × List Char)} :
      (Stretch.replaced quote name).Becomes b text → literalAfter none text = none →
        literalAfter none (Stretch.replaced quote name).source = none → Scanned b none items →
        Scanned b none ((.replaced quote name, text) :: items)

/-- Only quotes open a literal. -/
theorem isQuote_of_literalNext {state : Option Char} {c q : Char}
    (hstate : ∀ q ∈ state, isQuote q = true) (h : literalNext state c = some q) :
    isQuote q = true := by
  cases state with
  | none =>
      by_cases hc : isQuote c = true
      · simp only [literalNext, hc, if_true, Option.some.injEq] at h
        rwa [← h]
      · simp [literalNext, hc] at h
  | some p =>
      by_cases hc : c = p
      · simp [literalNext, hc] at h
      · simp only [literalNext, hc, if_false, Option.some.injEq] at h
        rw [← h]
        exact hstate p rfl

/-- A hole that is not directly between two equal quotes stands outside of literals. -/
theorem state_before_hole {state : Option Char} {c : Char} {rest : List Piece} (name : String)
    (hstate : ∀ q ∈ state, isQuote q = true)
    (hplaced : WellPlaced (literalNext state c) (some c) (.hole name :: rest))
    (hbare : ¬ ∃ more, rest = .char c :: more ∧ isQuote c = true) : literalNext state c = none := by
  cases hnext : literalNext state c with
  | none => rfl
  | some q =>
      have hquote := isQuote_of_literalNext hstate hnext
      rw [hnext] at hplaced
      -- inside of a literal the hole would have the literal's quote on both sides
      rcases hplaced.1 with ⟨hbefore, hafter⟩
      cases hbefore
      cases rest with
      | nil => cases hafter
      | cons p rest =>
          cases p with
          | char d =>
              have hd : d = c := by simpa [Piece.source] using hafter
              exact absurd ⟨rest, by rw [hd], hquote⟩ hbare
          | hole other =>
              have hbrace : '\x7b' = c := by simpa [Piece.source] using hafter
              rw [← hbrace] at hquote
              cases hquote

/-- A template is filled with stretches, scanned for literals from a state. -/
def FilledBy (b : Bindings) (state : Option Char) (ps : List Piece)
    (items : List (Stretch × List Char)) : Prop :=
  Scanned b state items ∧ ps = items.flatMap (·.1.pieces) ∧
    fillPath b ps = .ok (items.flatMap (·.2))

/-- A character that is not part of a replaced literal is kept. -/
theorem FilledBy.kept {b : Bindings} {state : Option Char} {c : Char} {rest : List Piece}
    {items : List (Stretch × List Char)} (h : FilledBy b (literalNext state c) rest items)
    (hfill : fillPath b (.char c :: rest) = (fillPath b rest).map (c :: ·)) :
    FilledBy b state (.char c :: rest) ((.kept c, [c]) :: items) := by
  rcases h with ⟨hscan, hps, hrest⟩
  refine ⟨.kept hscan, ?_, ?_⟩
  · rw [hps]
    rfl
  · rw [hfill, hrest]
    rfl

/-- An expression for a value takes the place of a hole and of the quotes around it. -/
theorem FilledBy.replaced {b : Bindings} {quote : Option Char} {name : String} {v : Json}
    {text : List Char} {rest : List Piece} {items : List (Stretch × List Char)}
    (h : FilledBy b none rest items) (hv : b.value name = .ok v)
    (htext : PathExpression quote v text)
    (hsource : literalAfter none (Stretch.replaced quote name).source = none)
    (hfill : fillPath b ((Stretch.replaced quote name).pieces ++ rest) =
      (fillPath b rest).map (text ++ ·)) :
    FilledBy b none ((Stretch.replaced quote name).pieces ++ rest)
      ((.replaced quote name, text) :: items) := by
  rcases h with ⟨hscan, hps, hrest⟩
  refine ⟨.replaced (.replaced hv htext) (literalAfter_pathExpression htext) hsource hscan, ?_, ?_⟩
  · rw [hps]
    rfl
  · rw [hfill, hrest]
    rfl

/-- A hole that is directly between two equal quotes is the whole content of a literal. -/
theorem WellPlaced.quoted_hole {state before : Option Char} {q : Char} {name : String}
    {rest : List Piece} (hq : isQuote q = true)
    (h : WellPlaced state before (.char q :: .hole name :: .char q :: rest)) :
    state = none ∧ WellPlaced none (some q) rest := by
  have hbetween := h.1
  have hmore := h.2
  have hclose : literalNext (some q) q = none := by simp [literalNext]
  cases state with
  | none =>
      have hopen : literalNext none q = some q := by simp [literalNext, hq]
      rw [hopen] at hmore
      exact ⟨rfl, by simpa only [WellPlaced, hclose] using hmore⟩
  | some p =>
      -- the hole would stand in the literal of `p`, or between quotes that enclose none
      by_cases hp : q = p
      · have hstep : literalNext (some p) q = none := by simp [literalNext, hp]
        rw [hstep] at hbetween
        simp [enclosingQuote?, Piece.source, hq] at hbetween
      · have hstep : literalNext (some p) q = some p := by simp [literalNext, hp]
        rw [hstep] at hbetween
        exact absurd (Option.some.inj hbetween.1) hp

/-- A hole of a variable that has a value. -/
def Supplied (b : Bindings) : Piece → Prop
  | .char _ => True
  | .hole name => Text.isName name = true ∧ ∃ v, b.value name = .ok v

/-- Filling goes through a template stretch by stretch. -/
theorem exists_stretches {b : Bindings} {ps : List Piece} (hsupplied : ∀ p ∈ ps, Supplied b p)
    {state before : Option Char} (hstate : ∀ q ∈ state, isQuote q = true)
    (hfree : ∀ name rest, ps = .hole name :: rest → state = none)
    (hplaced : WellPlaced state before ps) :
    ∃ items, FilledBy b state ps items := by
  have hnone : ∀ q ∈ (none : Option Char), isQuote q = true := nofun
  -- the cases are those of filling, which looks at a hole together with the characters around it
  induction ps using fillPath.induct generalizing state before with
  | case1 => exact ⟨[], .nil, rfl, rfl⟩
  | case2 q name close rest hquotes ih =>
      rcases hquotes with ⟨rfl, hq⟩
      rcases hplaced.quoted_hole hq with ⟨rfl, hrest⟩
      simp only [List.forall_mem_cons] at hsupplied
      rcases hsupplied with ⟨_, ⟨hname, v, hv⟩, _, hmore⟩
      rcases ih hmore hnone (fun _ _ _ => rfl) hrest with ⟨items, hitems⟩
      have hliteral := literalAfter_quoted_hole hname hq
      refine ⟨_, hitems.replaced hv (pathExpression_quoted q v) hliteral ?_⟩
      show fillPath b (.char q :: .hole name :: .char q :: rest) = _
      rw [fillPath, if_pos ⟨rfl, hq⟩, hv]
      rfl
  | case3 c name close rest hnot ih =>
      -- the character stays, and the hole after it is bare
      have hnext : literalNext state c = none := by
        refine state_before_hole name hstate hplaced ?_
        rintro ⟨more, hmore, hq⟩
        cases hmore
        exact hnot ⟨rfl, hq⟩
      have hquote : ∀ q ∈ literalNext state c, isQuote q = true := fun q hq =>
        isQuote_of_literalNext hstate hq
      rcases ih (List.forall_mem_cons.1 hsupplied).2 hquote (fun _ _ _ => hnext) hplaced with
        ⟨items, hitems⟩
      refine ⟨_, hitems.kept ?_⟩
      rw [fillPath, if_neg hnot]
  | case4 c rest hpattern ih =>
      have hquote : ∀ q ∈ literalNext state c, isQuote q = true := fun q hq =>
        isQuote_of_literalNext hstate hq
      have hnext : ∀ name more, rest = .hole name :: more → literalNext state c = none := by
        rintro name more rfl
        refine state_before_hole name hstate hplaced ?_
        rintro ⟨last, hlast, _⟩
        cases hlast
        exact hpattern name c last rfl
      rcases ih (List.forall_mem_cons.1 hsupplied).2 hquote hnext hplaced with ⟨items, hitems⟩
      refine ⟨_, hitems.kept ?_⟩
      rw [fillPath]
      exact hpattern
  | case5 name rest ih =>
      -- a hole at the front is bare, so it stands outside of literals
      cases hfree name rest rfl
      rcases List.forall_mem_cons.1 hsupplied with ⟨⟨hname, v, hv⟩, hmore⟩
      rcases ih hmore hnone (fun _ _ _ => rfl) hplaced.2 with ⟨items, hitems⟩
      refine ⟨_, hitems.replaced hv (pathExpression_pathLiteral v) ?_ ?_⟩
      · simpa [Stretch.source, Stretch.pieces] using literalAfter_hole hname
      · show fillPath b (.hole name :: rest) = _
        rw [fillPath, hv]
        rfl

/-! ## The filled template -/

/--
After some stretches the template and the result are in the same literal, if in any, and the others
are scanned from there.
-/
theorem Scanned.after {b : Bindings} {state : Option Char} {front back : List (Stretch × List Char)}
    (h : Scanned b state (front ++ back)) :
    literalAfter state (front.flatMap (·.2)) = literalAfter state (front.flatMap (·.1.source)) ∧
      Scanned b (literalAfter state (front.flatMap (·.2))) back := by
  induction front generalizing state with
  | nil => exact ⟨rfl, h⟩
  | cons item front ih =>
      cases h with
      | kept h => exact ih h
      | replaced _ htext hsource h =>
          -- neither the stretch nor its text leaves a literal open
          rw [List.flatMap_cons, List.flatMap_cons, XPath.literalAfter_append,
            XPath.literalAfter_append, htext, hsource]
          exact ih h

/-- The first stretch has become its text, and a replaced one stands outside of literals. -/
theorem Scanned.head {b : Bindings} {state : Option Char} {item : Stretch × List Char}
    {items : List (Stretch × List Char)} (h : Scanned b state (item :: items)) :
    item.1.Becomes b item.2 ∧
      (item.1.isReplaced = true → state = none ∧ literalAfter none item.2 = none) := by
  cases h with
  | kept _ => exact ⟨.kept _, nofun⟩
  | replaced hbecomes htext _ _ => exact ⟨hbecomes, fun _ => ⟨rfl, htext⟩⟩

/--
Filling a path template keeps its text, except that each hole, with the quotes around it where it is
the content of a literal, becomes one complete expression for its value. Each expression stands
outside of literals, and all else stands inside or outside of them as in the template.
-/
theorem fill_path_stretches (b : Bindings) (e : String)
    (hplaced : WellPlaced none none (pieces e.toList))
    (hvalues : ∀ name, .hole name ∈ pieces e.toList → ∃ v, b.value name = .ok v) :
    ∃ items : List (Stretch × List Char),
      pieces e.toList = items.flatMap (·.1.pieces) ∧
      e.toList = items.flatMap (·.1.source) ∧
      fill .xml b e = .ok (String.ofList (items.flatMap (·.2))) ∧
      (∀ front back, items = front ++ back →
        literalAfter none (front.flatMap (·.2)) =
          literalAfter none (front.flatMap (·.1.source))) ∧
      ∀ front item back, items = front ++ item :: back →
        item.1.Becomes b item.2 ∧ (item.1.isReplaced = true →
          literalAfter none (front.flatMap (·.2)) = none ∧
            literalAfter none item.2 = none) := by
  have hsupplied : ∀ p ∈ pieces e.toList, Supplied b p := by
    rintro (c | name) hp
    · trivial
    · exact ⟨isName_of_mem_pieces hp, hvalues name hp⟩
  rcases exists_stretches hsupplied (by simp) (fun _ _ _ => rfl) hplaced with
    ⟨items, hscan, hps, hfill⟩
  refine ⟨items, hps, ?_, ?_, ?_, ?_⟩
  · have hsource := flatMap_source_pieces e.toList
    rw [hps, List.flatMap_assoc] at hsource
    exact hsource.symm
  · rw [fill, hfill]
    rfl
  · rintro front back rfl
    exact hscan.after.1
  · rintro front item back rfl
    exact hscan.after.2.head

/-- A path with a hole in a literal, the same variable in the other quotes, and two bare holes. -/
def mixedPath : String :=
  "//a[@x='\x7b\x7bv\x7d\x7d' and b=\x7b\x7bn\x7d\x7d]/c[\"\x7b\x7bv\x7d\x7d\"=\x7b\x7bv\x7d\x7d]"

def mixedValues : Bindings where
  values := [("v", .string "it's \"so\""), ("n", .number (.integer (-7)))]
  types := []

theorem mixedPath_wellPlaced : WellPlaced none none (pieces mixedPath.toList) := by
  decide +kernel

/-- Every hole of the mixed path has a value. -/
theorem mixedValues_supplied :
    ∀ name, .hole name ∈ pieces mixedPath.toList → ∃ v, mixedValues.value name = .ok v := by
  have hholes : ∀ p ∈ pieces mixedPath.toList,
      p = .hole "v" ∨ p = .hole "n" ∨ p.source.length = 1 := by decide +kernel
  intro name hname
  rcases hholes _ hname with hv | hn | hlen
  · cases hv
    exact ⟨_, Bindings.value_eq_convert rfl⟩
  · cases hn
    exact ⟨.number (.integer (-7)), Bindings.value_eq_convert (by simp [mixedValues, Members.get?])⟩
  · simp [Piece.source] at hlen

theorem fill_path_stretches_of_mixedValues :
    WellPlaced none none (pieces mixedPath.toList) ∧
      (∀ name, .hole name ∈ pieces mixedPath.toList → ∃ v, mixedValues.value name = .ok v) ∧
      ∃ items : List (Stretch × List Char),
        pieces mixedPath.toList = items.flatMap (·.1.pieces) ∧
        mixedPath.toList = items.flatMap (·.1.source) ∧
        fill .xml mixedValues mixedPath = .ok (String.ofList (items.flatMap (·.2))) ∧
        (∀ front back, items = front ++ back →
          literalAfter none (front.flatMap (·.2)) =
            literalAfter none (front.flatMap (·.1.source))) ∧
        ∀ front item back, items = front ++ item :: back →
          item.1.Becomes mixedValues item.2 ∧ (item.1.isReplaced = true →
            literalAfter none (front.flatMap (·.2)) = none ∧
              literalAfter none item.2 = none) :=
  ⟨mixedPath_wellPlaced, mixedValues_supplied,
    fill_path_stretches mixedValues mixedPath mixedPath_wellPlaced mixedValues_supplied⟩

end Template
end Gleaner
