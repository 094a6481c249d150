import Gleaner.Proofs.Template.Form
/-!
# Gaps in queries

In the form of a query every gap stands directly between two double quotes. The quotes may enclose
it, and then the value is the end of a literal; or they may close one literal and open the next, and
then the value is exposed as code.

* `Enclosed` says where the gaps of a form stand, `exposedGaps` counts those among the code;
* `Layout` cuts a form into code, literals and exposed gaps, `layout_of_enclosed` finds the parts;
* `sameShape_iff`: any two values give the same tokens apart from the contents of strings exactly
  when no gap is exposed, or no value gives a text that can be lexed.
-/

namespace Gleaner
namespace Template

open Query (Token Place tokens? openAfter? EndsEscaped)

/-! ## Where the gaps stand -/

/-- After the given character, every gap stands directly between two double quotes. -/
def Enclosed : (before : Option Char) → Form → Prop
  | _, [] => True
  | _, some c :: rest => Enclosed (some c) rest
  | before, none :: rest =>
    before = some '"' ∧ rest.head? = some (some '"') ∧ Enclosed none rest

/-- The number of gaps that stand among the code, where scanning begins at a place. -/
def exposedGaps : Place → Form → Nat
  | _, [] => 0
  | p, some c :: rest => exposedGaps (p.after c) rest
  | .code, none :: rest => exposedGaps .code rest + 1
  | p, none :: rest => exposedGaps p rest

/-- A form without a gap at its front may follow anything. -/
theorem Enclosed.weaken {form : Form} (h : Enclosed none form) (before : Option Char) :
    Enclosed before form := by
  match form with
  | [] => trivial
  | some c :: rest => exact h
  | none :: rest => cases h.1

/-- Plain characters before an enclosed form leave it enclosed. -/
theorem Enclosed.map_some_append {form : Form} (h : Enclosed none form) (before : Option Char)
    (cs : List Char) : Enclosed before (cs.map some ++ form) := by
  induction cs generalizing before with
  | nil => exact h.weaken before
  | cons c cs ih => exact ih (some c)

/-- Every gap in the form of a query stands between two double quotes. -/
theorem enclosed_queryForm {b : Bindings} {target : String} {before : Option Char}
    {ps : List Piece} {form : Form} (h : queryForm b target before ps = .ok form) :
    Enclosed before form := by
  induction ps generalizing before form with
  | nil =>
      cases h
      trivial
  | cons p rest ih =>
      cases p with
      | char c =>
          rw [queryForm] at h
          rcases Except.map_eq_ok_iff.1 h with ⟨more, hmore, rfl⟩
          show Enclosed (some c) more
          exact ih hmore
      | hole name =>
          rw [queryForm] at h
          rcases Except.bind_eq_ok_iff.1 h with ⟨here, hhere, hrest⟩
          rcases Except.bind_eq_ok_iff.1 hrest with ⟨more, hmore, hform⟩
          cases hform
          have hmoreEnclosed := ih hmore
          unfold queryHole at hhere
          split at hhere
          · -- the hole of the variable itself, in the quotes of the template or in its own
            split at hhere
            · rename_i hquote
              cases hhere
              rcases enclosingQuote?_eq_some hquote with ⟨hbefore, hafter, _⟩
              refine ⟨hbefore, ?_, hmoreEnclosed⟩
              -- the character after the hole is the first one of the rest of the form
              cases rest with
              | nil => cases hafter
              | cons next rest =>
                  cases next with
                  | hole other => cases hafter
                  | char c =>
                      cases hafter
                      rw [queryForm] at hmore
                      rcases Except.map_eq_ok_iff.1 hmore with ⟨last, _, rfl⟩
                      rfl
            · cases hhere
              exact ⟨rfl, rfl, hmoreEnclosed.weaken _⟩
          · rcases Except.map_eq_ok_iff.1 hhere with ⟨v, _, rfl⟩
            exact hmoreEnclosed.map_some_append before _

/-! ## The parts of a form -/

/-- A form in parts: code, literals with or without a value at their end, and exposed gaps. -/
inductive Layout : Form → Prop where
  | code {k : List Char} : '"' ∉ k → Layout (k.map some)
  | unclosed {k a : List Char} {e : Bool} :
      '"' ∉ k → openAfter? false a = some e → Layout (k.map some ++ some '"' :: a.map some)
  | literal {k a : List Char} {rest : Form} :
      '"' ∉ k → openAfter? false a = some false → Layout rest →
        Layout (k.map some ++ some '"' :: (a.map some ++ some '"' :: rest))
  | value {k a : List Char} {rest : Form} :
      '"' ∉ k → EndsEscaped a → Layout rest →
        Layout (k.map some ++ some '"' :: (a.map some ++ none :: some '"' :: rest))
  | exposed {rest : Form} : Layout (some '"' :: rest) → Layout (none :: some '"' :: rest)

/-- A text after which the next character is escaped ends in a backslash that is not. -/
theorem openAfter?_eq_true {a : List Char} (h : openAfter? false a = some true) :
    ∃ front, a = front ++ ['\\'] ∧ openAfter? false front = some false := by
  rcases List.eq_nil_or_concat a with rfl | ⟨front, c, rfl⟩
  · cases h
  · rw [List.concat_eq_append, Query.openAfter?_append] at h
    rcases Option.bind_eq_some_iff.1 h with ⟨e, hfront, hlast⟩
    cases e with
    | true => cases hlast
    | false =>
        by_cases hquote : c = '"'
        · simp [openAfter?, hquote] at hlast
        · have hc : c = '\\' := by simpa [openAfter?, hquote] using hlast
          exact ⟨front, by rw [hc, List.concat_eq_append], hfront⟩

/-- A quote that does not close a literal is escaped. -/
theorem endsEscaped_of_quote {a : List Char} (h : openAfter? false a = some true) :
    EndsEscaped (a ++ ['"']) := by
  rcases openAfter?_eq_true h with ⟨front, rfl, hfront⟩
  exact .inr ⟨front, by simp, hfront⟩

/-- Code without quotes, up to a character that is a quote only if there is no such code. -/
def CodeBefore (k : List Char) (before : Option Char) : Prop :=
  '"' ∉ k ∧ (before = some '"' → k = [])

/-- The content of an open literal, up to a character that is a quote only if it is escaped. -/
def LiteralBefore (a : List Char) (e : Bool) (before : Option Char) : Prop :=
  openAfter? false a = some e ∧ (before = some '"' → EndsEscaped a ∧ e = false)

theorem CodeBefore.next {k : List Char} {before : Option Char} (h : CodeBefore k before) {c : Char}
    (hc : c ≠ '"') : CodeBefore (k ++ [c]) (some c) := by
  refine ⟨by simp [h.1, hc.symm], fun heq => ?_⟩
  exact absurd (Option.some.inj heq) hc

/-- A literal goes on with a character that does not close it. -/
theorem LiteralBefore.next {a : List Char} {e : Bool} {before : Option Char}
    (h : LiteralBefore a e before) {c : Char} (hc : c = '"' → e = true) :
    ∃ e', LiteralBefore (a ++ [c]) e' (some c) := by
  cases e with
  | true =>
      refine ⟨false, by simp [Query.openAfter?_append, h.1, openAfter?], fun heq => ?_⟩
      rw [Option.some.inj heq]
      exact ⟨endsEscaped_of_quote h.1, rfl⟩
  | false =>
      have hquote : c ≠ '"' := fun heq => by cases hc heq
      refine ⟨c == '\\', by simp [Query.openAfter?_append, h.1, openAfter?, hquote], fun heq => ?_⟩
      exact absurd (Option.some.inj heq) hquote

/--
The parts of a form whose gaps are enclosed, by induction on its length, after code or in a literal
that follows code.
-/
theorem layout_after (n : Nat) : ∀ form : Form, form.length = n →
    (∀ (k : List Char) before, CodeBefore k before → Enclosed before form →
      Layout (k.map some ++ form)) ∧
    ∀ (k a : List Char) e before, '"' ∉ k → LiteralBefore a e before → Enclosed before form →
      Layout (k.map some ++ some '"' :: (a.map some ++ form)) := by
  have hstart : ∀ before, CodeBefore [] before := fun before => ⟨by simp, fun _ => rfl⟩
  -- an exposed gap leaves the quote after it in the form, so the induction is not on the form
  induction n using Nat.strongRecOn with
  | ind n ih =>
      intro form hlen
      subst hlen
      refine ⟨?_, ?_⟩
      · intro k before hk henclosed
        match form, henclosed, ih with
        | [], _, _ => simpa using Layout.code hk.1
        | some c :: rest, henclosed, ih =>
            have hrest := ih rest.length (Nat.lt_succ_self _) rest rfl
            by_cases hc : c = '"'
            · -- the quote opens a literal
              rw [hc] at henclosed ⊢
              exact hrest.2 k [] false (some '"') hk.1 ⟨rfl, fun _ => ⟨.inl rfl, rfl⟩⟩ henclosed
            · simpa using hrest.1 (k ++ [c]) (some c) (hk.next hc) henclosed
        | none :: some q :: rest, ⟨hbefore, hafter, hrest⟩, ih =>
            have hq : q = '"' := by simpa using hafter
            subst hq
            -- the quote before the gap closed a literal, so no code stands before the gap
            rw [hk.2 hbefore]
            have htail := ih (rest.length + 1) (Nat.lt_succ_self _) (some '"' :: rest) rfl
            exact .exposed (htail.1 [] none (hstart none) hrest)
        | none :: none :: rest, ⟨_, hafter, _⟩, _ => simp at hafter
        | [none], ⟨_, hafter, _⟩, _ => simp at hafter
      · intro k a e before hk ha henclosed
        match form, henclosed, ih with
        | [], _, _ => simpa using Layout.unclosed hk ha.1
        | some c :: rest, henclosed, ih =>
            have hrest := ih rest.length (Nat.lt_succ_self _) rest rfl
            by_cases hc : c = '"' → e = true
            · rcases ha.next hc with ⟨e', he'⟩
              simpa using hrest.2 k (a ++ [c]) e' (some c) hk he' henclosed
            · -- the quote closes the literal
              simp only [Classical.not_imp, Bool.not_eq_true] at hc
              rcases hc with ⟨rfl, rfl⟩
              exact .literal hk ha.1 (hrest.1 [] (some '"') (hstart _) henclosed)
        | none :: some q :: rest, ⟨hbefore, hafter, hrest⟩, ih =>
            have hq : q = '"' := by simpa using hafter
            subst hq
            have htail := ih rest.length (by simp only [List.length_cons]; omega) rest rfl
            exact .value hk (ha.2 hbefore).1 (htail.1 [] (some '"') (hstart _) hrest)
        | none :: none :: rest, ⟨_, hafter, _⟩, _ => simp at hafter
        | [none], ⟨_, hafter, _⟩, _ => simp at hafter

theorem layout_of_enclosed {form : Form} (h : Enclosed none form) : Layout form :=
  (layout_after form.length form rfl).1 [] none ⟨by simp, fun _ => rfl⟩ h

/-! ## Tokens without the contents of strings -/

/-- A token without the content of a string. -/
def tokenShape : Token → Token
  | .str _ => .str ""
  | t => t

/-- The tokens of a text without the contents of strings, where it can be lexed. -/
def shape? (cs : List Char) : Option (List Token) :=
  (tokens? cs).map fun ts => ts.map tokenShape

/-- Whether a text is the body of a string literal. -/
def readable? (body : List Char) : Bool :=
  (Json.readString? ('"' :: body ++ ['"'])).isSome

/-- A body can be read exactly if it is the body of a string. -/
theorem readable?_eq_true_iff (body : List Char) :
    readable? body = true ↔ ∃ ds, Json.StringBody body ds := by
  rw [readable?, Option.isSome_iff_exists]
  constructor
  · rintro ⟨s, hs⟩
    exact ⟨s.toList, (Json.readString?_quoted_iff body s).1 hs⟩
  · rintro ⟨ds, hds⟩
    refine ⟨String.ofList ds, (Json.readString?_quoted_iff body _).2 ?_⟩
    rwa [String.toList_ofList]

/-- A written value at the end of a literal does not decide whether the literal can be read. -/
theorem readable?_append_escaped {a : List Char} (ha : EndsEscaped a) (cs : List Char) :
    readable? (a ++ Json.escaped cs) = readable? a := by
  rw [Bool.eq_iff_iff, readable?_eq_true_iff, readable?_eq_true_iff]
  exact Query.readable_append_escaped ha cs

theorem openAfter?_endsEscaped {a : List Char} (ha : EndsEscaped a) :
    openAfter? false a = some false := by
  rcases ha with rfl | ⟨front, rfl, hfront⟩
  · rfl
  · rw [Query.openAfter?_append, hfront]
    rfl

theorem openAfter?_append_escaped {a : List Char} (ha : EndsEscaped a) (cs : List Char) :
    openAfter? false (a ++ Json.escaped cs) = some false := by
  rw [Query.openAfter?_append, openAfter?_endsEscaped ha]
  exact Query.openAfter?_of_stringBody (Json.stringBody_escaped cs)

theorem through_code_of_not_mem {k : List Char} (hk : '"' ∉ k) : Place.code.through k = .code :=
  Place.through_code fun _ hc heq => hk (heq ▸ hc)

/-- The shape of code goes on with the shape of the literal behind it. -/
theorem shape?_append_quote {cs : List Char} (h : Place.code.through cs = .code)
    (more : List Char) :
    shape? (cs ++ '"' :: more) =
      (shape? cs).bind fun ts => (shape? ('"' :: more)).map (ts ++ ·) := by
  rw [shape?, Query.tokens?_append_quote h, shape?, shape?]
  cases tokens? cs with
  | none => rfl
  | some ts => cases tokens? ('"' :: more) <;> simp

/-- A literal that can be read is one token of the shape, whatever its text. -/
theorem shape?_literal {body : List Char} (h : openAfter? false body = some false)
    (more : List Char) :
    shape? ('"' :: body ++ '"' :: more) =
      if readable? body then (shape? more).map (Token.str "" :: ·) else none := by
  rw [shape?, Query.tokens?_literal h, shape?, readable?]
  cases Json.readString? ('"' :: body ++ ['"']) with
  | none => rfl
  | some text => cases tokens? more <;> simp [tokenShape]

/-- The tokens of code, of a literal after it, and of more text. -/
def withLiteral (k body : List Char) (more : Option (List Token)) : Option (List Token) :=
  (shape? k).bind fun ts =>
    if readable? body then more.map fun us => ts ++ Token.str "" :: us else none

/-- The code and the literal have the same number of tokens whatever follows. -/
theorem withLiteral_eq_some {k body : List Char} {more : Option (List Token)} {ts : List Token}
    (h : withLiteral k body more = some ts) :
    ∃ us n, more = some us ∧ ts.length = us.length + n ∧
      ∀ us', ∃ ts', withLiteral k body (some us') = some ts' ∧ ts'.length = us'.length + n := by
  unfold withLiteral at h ⊢
  rcases Option.bind_eq_some_iff.1 h with ⟨front, hfront, hmore⟩
  split at hmore
  · rename_i hbody
    rcases Option.map_eq_some_iff.1 hmore with ⟨us, rfl, rfl⟩
    refine ⟨us, front.length + 1, rfl, by simp; omega, fun us' => ?_⟩
    exact ⟨front ++ Token.str "" :: us', by simp [hfront, hbody], by simp; omega⟩
  · cases hmore

/-- A shape goes on behind code without quotes and the literal that follows it. -/
theorem shape?_code_literal {k body : List Char} (hk : '"' ∉ k)
    (hbody : openAfter? false body = some false) (more : List Char) :
    shape? (k ++ '"' :: (body ++ '"' :: more)) = withLiteral k body (shape? more) := by
  rw [shape?_append_quote (through_code_of_not_mem hk), ← List.cons_append, shape?_literal hbody,
    withLiteral]
  cases shape? k with
  | none => rfl
  | some ts =>
      cases readable? body with
      | false => rfl
      | true => cases shape? more <;> rfl

/-! ## The parts with a value filled in -/

/-- Code, a quote and what follows it have no gaps before the rest. -/
theorem fill_opened (value k a : List Char) (rest : Form) :
    Form.fill value (k.map some ++ some '"' :: (a.map some ++ rest)) =
      k ++ '"' :: (a ++ rest.fill value) := by
  rw [Form.fill_append, Form.fill_map_some, Form.fill_char, Form.fill_append, Form.fill_map_some]

theorem fill_unclosed (value k a : List Char) :
    Form.fill value (k.map some ++ some '"' :: a.map some) = k ++ '"' :: a := by
  have h := fill_opened value k a []
  rwa [List.append_nil, Form.fill_nil, List.append_nil] at h

theorem shape?_fill_literal {k a : List Char} (hk : '"' ∉ k) (ha : openAfter? false a = some false)
    (value : List Char) (rest : Form) :
    shape? (Form.fill value (k.map some ++ some '"' :: (a.map some ++ some '"' :: rest))) =
      withLiteral k a (shape? (rest.fill value)) := by
  rw [fill_opened, Form.fill_char, shape?_code_literal hk ha]

/-- The literal counts as if the value at its end were empty. -/
theorem shape?_fill_value {k a : List Char} (hk : '"' ∉ k) (ha : EndsEscaped a) (cs : List Char)
    (rest : Form) :
    shape? (Form.fill (Json.escaped cs)
      (k.map some ++ some '"' :: (a.map some ++ none :: some '"' :: rest))) =
      withLiteral k a (shape? (rest.fill (Json.escaped cs))) := by
  rw [fill_opened, Form.fill_gap, Form.fill_char, ← List.append_assoc,
    shape?_code_literal hk (openAfter?_append_escaped ha cs), withLiteral,
    readable?_append_escaped ha, withLiteral]

theorem exposedGaps_map_some (p : Place) (cs : List Char) (form : Form) :
    exposedGaps p (cs.map some ++ form) = exposedGaps (p.through cs) form := by
  induction cs generalizing p with
  | nil => rfl
  | cons c cs ih => exact ih (p.after c)

/-- Behind code and the front of a literal, gaps are exposed as in the literal. -/
theorem exposedGaps_code {k a : List Char} (hk : '"' ∉ k) {e : Bool}
    (ha : openAfter? false a = some e) (rest : Form) :
    exposedGaps .code (k.map some ++ some '"' :: (a.map some ++ rest)) =
      exposedGaps (.inLiteral e) rest := by
  have hopen : Place.code.after '"' = .inLiteral false := rfl
  rw [exposedGaps_map_some, through_code_of_not_mem hk, exposedGaps, hopen, exposedGaps_map_some,
    Place.through_literal ha]

theorem exposedGaps_literal {k a : List Char} (hk : '"' ∉ k) (ha : openAfter? false a = some false)
    (rest : Form) :
    exposedGaps .code (k.map some ++ some '"' :: (a.map some ++ some '"' :: rest)) =
      exposedGaps .code rest := by
  rw [exposedGaps_code hk ha]
  rfl

theorem exposedGaps_value {k a : List Char} (hk : '"' ∉ k) (ha : EndsEscaped a) (rest : Form) :
    exposedGaps .code (k.map some ++ some '"' :: (a.map some ++ none :: some '"' :: rest)) =
      exposedGaps .code rest := by
  rw [exposedGaps_code hk (openAfter?_endsEscaped ha)]
  rfl

/-! ## Values inside of literals -/

/-- A form without exposed gaps has the same tokens for every value. -/
theorem shape?_of_no_exposed {form : Form} (h : Layout form) (hgaps : exposedGaps .code form = 0)
    (s₁ s₂ : List Char) :
    shape? (form.fill (Json.escaped s₁)) = shape? (form.fill (Json.escaped s₂)) := by
  induction h with
  | code hk => rw [Form.fill_map_some, Form.fill_map_some]
  | unclosed hk ha => rw [fill_unclosed, fill_unclosed]
  | literal hk ha _ ih =>
      rw [exposedGaps_literal hk ha] at hgaps
      rw [shape?_fill_literal hk ha, shape?_fill_literal hk ha, ih hgaps]
  | value hk ha _ ih =>
      rw [exposedGaps_value hk ha] at hgaps
      rw [shape?_fill_value hk ha, shape?_fill_value hk ha, ih hgaps]
  | exposed _ _ => cases hgaps

/-! ## Exposed values -/

/-- A character is written as itself or behind a backslash. -/
theorem escapedChar_in_code (c : Char) :
    (∃ x, Json.escapedChar c = [x] ∧ x ≠ '"') ∨ ∃ rest, Json.escapedChar c = '\\' :: rest := by
  unfold Json.escapedChar
  split
  case h_6 hquote _ _ _ _ =>
      split
      · exact .inr ⟨_, rfl⟩
      · split
        · exact .inr ⟨_, rfl⟩
        · split
          · exact .inr ⟨_, rfl⟩
          · exact .inl ⟨c, rfl, hquote⟩
  all_goals exact .inr ⟨_, rfl⟩

/-- A written value is code without quotes, or has a backslash in front of its first quote. -/
theorem escaped_in_code (cs more : List Char) :
    '"' ∉ Json.escaped cs ∨ '\\' ∈ (Json.escaped cs ++ more).takeWhile (· != '"') := by
  induction cs with
  | nil => exact .inl (by simp [Json.escaped])
  | cons c cs ih =>
      have hcons : Json.escaped (c :: cs) = Json.escapedChar c ++ Json.escaped cs := rfl
      rw [hcons]
      rcases escapedChar_in_code c with ⟨x, hx, hquote⟩ | ⟨rest, hrest⟩
      · rw [hx]
        rcases ih with hnone | hmem
        · exact .inl (by simp [hnone, hquote.symm])
        · exact .inr (by simp [hquote, hmem])
      · exact .inr (by simp [hrest])

/-- A form that can be lexed with some value can be lexed with the empty one. -/
theorem shape?_empty {form : Form} (h : Layout form) {cs : List Char} {ts : List Token}
    (hshape : shape? (form.fill (Json.escaped cs)) = some ts) :
    ∃ us, shape? (form.fill []) = some us := by
  induction h generalizing ts with
  | code hk => exact ⟨ts, by rwa [Form.fill_map_some] at hshape ⊢⟩
  | unclosed hk ha => exact ⟨ts, by rwa [fill_unclosed] at hshape ⊢⟩
  | @literal k a rest hk ha _ ih =>
      rw [shape?_fill_literal hk ha] at hshape
      rcases withLiteral_eq_some hshape with ⟨us, n, hmore, _, hany⟩
      rcases ih hmore with ⟨us', hus'⟩
      rcases hany us' with ⟨ts', hts', _⟩
      exact ⟨ts', by rw [shape?_fill_literal hk ha, hus', hts']⟩
  | @value k a rest hk ha _ ih =>
      rw [shape?_fill_value hk ha] at hshape
      rcases withLiteral_eq_some hshape with ⟨us, n, hmore, _, hany⟩
      rcases ih hmore with ⟨us', hus'⟩
      rcases hany us' with ⟨ts', hts', _⟩
      have hempty := shape?_fill_value hk ha [] rest
      exact ⟨ts', hempty.trans (by rw [← hts', ← hus']; rfl)⟩
  | @exposed rest _ ih =>
      rw [Form.fill_gap, Form.fill_char] at hshape
      rcases Option.map_eq_some_iff.1 hshape with ⟨us, hus, _⟩
      -- a value with a quote would bring a backslash among the code
      have hslash := Query.backslash_not_mem_of_tokens? hus
      have hquote := (escaped_in_code cs ('"' :: rest.fill (Json.escaped cs))).resolve_right hslash
      rw [shape?_append_quote (through_code_of_not_mem hquote)] at hshape
      rcases Option.bind_eq_some_iff.1 hshape with ⟨front, _, hmore⟩
      rcases Option.map_eq_some_iff.1 hmore with ⟨last, hlast, _⟩
      exact ih hlast

/-- An exposed gap takes a comma as one more token. -/
theorem shape?_comma {form : Form} (h : Layout form) {ts : List Token}
    (hshape : shape? (form.fill []) = some ts) :
    ∃ us, shape? (form.fill [',']) = some us ∧
      us.length = ts.length + exposedGaps .code form := by
  induction h generalizing ts with
  | @code k hk =>
      have hgaps := exposedGaps_map_some .code k []
      rw [List.append_nil] at hgaps
      exact ⟨ts, by rwa [Form.fill_map_some] at hshape ⊢, by rw [hgaps]; rfl⟩
  | @unclosed k a e hk ha =>
      have hgaps := exposedGaps_code hk ha []
      rw [List.append_nil] at hgaps
      exact ⟨ts, by rwa [fill_unclosed] at hshape ⊢, by rw [hgaps]; rfl⟩
  | @literal k a rest hk ha _ ih =>
      rw [shape?_fill_literal hk ha] at hshape
      -- the literal adds the same tokens to both
      rcases withLiteral_eq_some hshape with ⟨us, n, hmore, hlen, hany⟩
      rcases ih hmore with ⟨us', hus', hlen'⟩
      rcases hany us' with ⟨ts', hts', hlen''⟩
      refine ⟨ts', by rw [shape?_fill_literal hk ha, hus', hts'], ?_⟩
      rw [exposedGaps_literal hk ha]
      omega
  | @value k a rest hk ha _ ih =>
      have hempty : shape? (Form.fill [] _) = _ := shape?_fill_value hk ha [] rest
      have hcomma : shape? (Form.fill [','] _) = _ := shape?_fill_value hk ha [','] rest
      rw [hempty] at hshape
      rcases withLiteral_eq_some hshape with ⟨us, n, hmore, hlen, hany⟩
      rcases ih hmore with ⟨us', hus', hlen'⟩
      rcases hany us' with ⟨ts', hts', hlen''⟩
      refine ⟨ts', hcomma.trans (by rw [← hts', ← hus']; rfl), ?_⟩
      rw [exposedGaps_value hk ha]
      omega
  | @exposed rest _ ih =>
      rcases ih hshape with ⟨us, hus, hlen⟩
      -- the comma stands among the code, where it is a token by itself
      have htoken : shape? [','] = some [.comma] := by decide +kernel
      refine ⟨.comma :: us, ?_, ?_⟩
      · rw [Form.fill_char] at hus
        rw [Form.fill_gap, Form.fill_char, shape?_append_quote (by decide), htoken, hus]
        rfl
      · rw [exposedGaps, List.length_cons]
        omega

/--
Any two values give the same tokens, apart from the contents of strings, exactly when no gap is
exposed or the form cannot be lexed even with the empty value.
-/
theorem sameShape_iff {form : Form} (h : Enclosed none form) :
    (∀ s₁ s₂ : List Char,
      shape? (form.fill (Json.escaped s₁)) = shape? (form.fill (Json.escaped s₂))) ↔
      shape? (form.fill []) = none ∨ exposedGaps .code form = 0 := by
  have hlayout := layout_of_enclosed h
  constructor
  · intro hlaw
    cases hshape : shape? (form.fill []) with
    | none => exact .inl rfl
    | some ts =>
        rcases shape?_comma hlayout hshape with ⟨us, hus, hlen⟩
        -- the empty value and a comma tell the exposed gaps
        have hsame : shape? (form.fill []) = shape? (form.fill [',']) := hlaw [] [',']
        rw [hshape, hus] at hsame
        have heq := congrArg List.length (Option.some.inj hsame)
        exact .inr (by omega)
  · rintro (hnone | hgaps) s₁ s₂
    · have hall : ∀ s, shape? (form.fill (Json.escaped s)) = none := by
        intro s
        cases hshape : shape? (form.fill (Json.escaped s)) with
        | none => rfl
        | some ts =>
            rcases shape?_empty hlayout hshape with ⟨us, hus⟩
            rw [hnone] at hus
            cases hus
      rw [hall, hall]
    · exact shape?_of_no_exposed hlayout hgaps s₁ s₂

end Template
end Gleaner
