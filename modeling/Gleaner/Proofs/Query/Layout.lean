import Gleaner.Proofs.Query.Lexing
import Gleaner.Proofs.Query.Writing
import Gleaner.Proofs.Sequencing
import Gleaner.Proofs.Text.Slice
/-!
# Where lexemes stand

Lexemes follow each other on a text, with blanks between them, and each has the byte offset of its
first character.

* `LaidOut` is the relation between a text and its lexemes, by `lexFrom_eq_ok_iff`;
* `Stands` says what a text has from a byte offset on, outside of string literals;
* `LaidOut.increasing`, `LaidOut.stands`: the offsets are strictly increasing, and each lexeme is
  what the scanner finds at its offset; `Token.BeginsWith` is the character that it finds there;
* `exists_stands_of_error`: where a text cannot be lexed, the scanner fails at some offset.
-/

namespace Gleaner
namespace Query

/-! ## Lexemes on a text -/

/-- The lexemes of a text that begins at an offset, one after the other. -/
inductive LaidOut : Nat → List Char → List Lexeme → Prop where
  | nil (offset : Nat) : LaidOut offset [] []
  | blank {offset : Nat} {c : Char} {rest : List Char} {ls : List Lexeme} :
      Text.isBlank c = true → LaidOut (offset + c.utf8Size) rest ls →
      LaidOut offset (c :: rest) ls
  | token {offset : Nat} {c : Char} {rest : List Char} {t : Token} {n : Nat} {ls : List Lexeme} :
      Text.isBlank c = false → scan offset c rest = .ok (t, n) →
      LaidOut (offset + c.utf8Size + Text.byteLength (rest.take n)) (rest.drop n) ls →
      LaidOut offset (c :: rest) (⟨t, offset⟩ :: ls)

theorem lexFrom_blank {c : Char} (hc : Text.isBlank c = true) (offset : Nat) (rest : List Char) :
    lexFrom offset (c :: rest) = lexFrom (offset + c.utf8Size) rest := by
  rw [lexFrom.eq_def]
  simp only [hc, if_true]

theorem lexFrom_token {c : Char} (hc : Text.isBlank c = false) {offset : Nat} {rest : List Char}
    {t : Token} {n : Nat} (hscan : scan offset c rest = .ok (t, n)) :
    lexFrom offset (c :: rest) =
      (lexFrom (offset + c.utf8Size + Text.byteLength (rest.take n)) (rest.drop n)).map
        (⟨t, offset⟩ :: ·) := by
  rw [lexFrom.eq_def]
  simp only [hc, Bool.false_eq_true, if_false, hscan]

theorem lexFrom_error {c : Char} (hc : Text.isBlank c = false) {offset : Nat} {rest : List Char}
    {e : Error} (hscan : scan offset c rest = .error e) :
    lexFrom offset (c :: rest) = .error e := by
  rw [lexFrom.eq_def]
  simp only [hc, Bool.false_eq_true, if_false, hscan]

/--
The lexer finds exactly the tokens that lie in the text, with the blanks between them left out.
-/
theorem lexFrom_eq_ok_iff {offset : Nat} {cs : List Char} {ls : List Lexeme} :
    lexFrom offset cs = .ok ls ↔ LaidOut offset cs ls := by
  constructor
  · intro h
    induction offset, cs using lexFrom.induct generalizing ls with
    | case1 offset =>
        rw [lexFrom] at h
        cases h
        exact .nil offset
    | case2 offset c rest hc ih =>
        rw [lexFrom_blank hc] at h
        exact .blank hc (ih h)
    | case3 offset c rest hc e hscan =>
        rw [lexFrom_error (Bool.eq_false_iff.2 hc) hscan] at h
        cases h
    | case4 offset c rest hc t n hscan ih =>
        have hc := Bool.eq_false_iff.2 hc
        rw [lexFrom_token hc hscan] at h
        rcases Except.map_eq_ok_iff.1 h with ⟨more, hmore, rfl⟩
        exact .token hc hscan (ih hmore)
  · intro h
    induction h with
    | nil offset => rw [lexFrom]
    | blank hc _ ih => rw [lexFrom_blank hc, ih]
    | token hc hscan _ ih =>
        rw [lexFrom_token hc hscan, ih]
        rfl

namespace LaidOut

variable {start : Nat} {cs : List Char} {ls : List Lexeme}

/-- Tokens stand where the text starts or behind it. -/
theorem start_le (h : LaidOut start cs ls) : ∀ l ∈ ls, start ≤ l.offset := by
  induction h with
  | nil offset => exact nofun
  | blank _ _ ih =>
      intro l hl
      exact Nat.le_trans (Nat.le_add_right _ _) (ih l hl)
  | token _ _ _ ih =>
      refine List.forall_mem_cons.2 ⟨Nat.le_refl _, fun l hl => ?_⟩
      have hle := ih l hl
      omega

/-- A later lexeme has a greater offset. -/
theorem increasing (h : LaidOut start cs ls) : (ls.map Lexeme.offset).Pairwise (· < ·) := by
  induction h with
  | nil offset => exact .nil
  | blank _ _ ih => exact ih
  | @token offset c rest t n ls _ _ hrest ih =>
      refine List.pairwise_cons.2 ⟨fun o ho => ?_, ih⟩
      rcases List.mem_map.1 ho with ⟨l, hl, rfl⟩
      have hle := hrest.start_le l hl
      have hpos := c.utf8Size_pos
      show offset < l.offset
      omega

/-- A lexeme whose offset is that of the text begins with the text's first character. -/
theorem head {l : Lexeme} (h : LaidOut start cs (l :: ls)) (hstart : l.offset = start) :
    ∃ c rest n, cs = c :: rest ∧ scan start c rest = .ok (l.token, n) ∧
      LaidOut (start + c.utf8Size + Text.byteLength (rest.take n)) (rest.drop n) ls := by
  cases h with
  | @blank _ c rest _ _ hrest =>
      have hle := hrest.start_le l List.mem_cons_self
      have hpos := c.utf8Size_pos
      omega
  | token _ hscan hrest => exact ⟨_, _, _, rfl, hscan, hrest⟩

end LaidOut

/-! ## What the scanner finds -/

/-- A literal that is scanned is a body that leaves nothing open, and a quote. -/
theorem exists_literal_of_scan {offset : Nat} {rest : List Char} {t : Token} {n : Nat}
    (h : scan offset '"' rest = .ok (t, n)) :
    ∃ body more text, rest = body ++ '"' :: more ∧ n = body.length + 1 ∧ t = .str text ∧
      openAfter? false body = some false ∧
      Json.readString? ('"' :: body ++ ['"']) = some text := by
  simp only [scan] at h
  cases hopen : openAfter? false rest with
  | some e =>
      simp [literalLength?_open hopen] at h
  | none =>
      rcases openAfter?_eq_none_iff.1 hopen with ⟨body, more, rfl, hbody⟩
      have htake : (body ++ '"' :: more).take (body.length + 1) = body ++ ['"'] := by
        simp [List.take_append]
      simp only [literalLength?_close hbody, htake] at h
      dsimp at h
      split at h
      · cases h
      · rename_i text htext
        cases h
        exact ⟨body, more, text, rfl, rfl, rfl, hbody, htext⟩

/-- No literal is open after a token. -/
theorem through_of_scan {c : Char} {offset : Nat} {rest : List Char} {t : Token} {n : Nat}
    (h : scan offset c rest = .ok (t, n)) : Place.code.through (c :: rest.take n) = .code := by
  by_cases hc : c = '"'
  · subst hc
    rcases exists_literal_of_scan h with ⟨body, more, _, rfl, rfl, _, hbody, _⟩
    have htake : (body ++ '"' :: more).take (body.length + 1) = body ++ ['"'] := by
      simp [List.take_append]
    rw [htake]
    exact Place.through_closed hbody []
  · exact Place.through_code fun x hx => ((scan_plain hc h).2 x hx).1

/-- The scanner fails at a character of its own, or at a quote that opens a literal. -/
theorem scan_eq_error {c : Char} {offset : Nat} {rest : List Char} {e : Error}
    (h : scan offset c rest = .error e) :
    e = .unexpectedChar c offset ∨
      c = '"' ∧ (e = .unterminatedString offset ∨ e = .invalidString offset) := by
  unfold scan at h
  split at h
  · split at h
    · cases h
    · split at h <;> cases h
    · cases h
  · split at h
    · rename_i hquote
      split at h
      · cases h
        exact .inr ⟨hquote, .inl rfl⟩
      · split at h
        · cases h
          exact .inr ⟨hquote, .inr rfl⟩
        · cases h
    · split at h
      · cases h
      · split at h
        · cases h
        · split at h
          · cases h
          · cases h
            exact .inl rfl

/-- The first character of a token; a number begins with any of the digits. -/
def Token.BeginsWith (t : Token) (c : Char) : Prop :=
  match t with
  | .num _ => c.isDigit = true
  | t => t.text.head? = some c

/-- A symbol begins with the character at which it is found. -/
theorem beginsWith_of_symbol? {c : Char} {next : Option Char} {t : Token} {n : Nat}
    (h : symbol? c next = some (t, n)) : t.BeginsWith c := by
  unfold symbol? at h
  split at h <;> cases h <;> rfl

/-- A token is found at its own first character. -/
theorem beginsWith_of_scan {c : Char} {offset : Nat} {rest : List Char} {t : Token} {n : Nat}
    (h : scan offset c rest = .ok (t, n)) : t.BeginsWith c := by
  by_cases hquote : c = '"'
  · subst hquote
    rcases exists_literal_of_scan h with ⟨_, _, _, _, _, rfl, _, _⟩
    rfl
  · cases found_of_scan hquote h with
    | dot hdot => exact congrArg some hdot.symm
    | dotDot hdot _ => exact congrArg some hdot.symm
    | field hdot => exact congrArg some hdot.symm
    | num _ hdigit => exact hdigit
    | ident => simp [Token.BeginsWith, Token.text]
    | symbol hsymbol => exact beginsWith_of_symbol? hsymbol

/-! ## What stands at an offset -/

/--
A text that begins at the offset `start` has `rest` from the byte offset `offset` on, and no string
literal is open there.
-/
def Stands (start : Nat) (cs : List Char) (offset : Nat) (rest : List Char) : Prop :=
  ∃ front, cs = front ++ rest ∧ start + Text.byteLength front = offset ∧
    Place.code.through front = .code

namespace Stands

variable {start offset : Nat} {cs rest : List Char}

theorem here (start : Nat) (cs : List Char) : Stands start cs start cs :=
  ⟨[], rfl, rfl, rfl⟩

/-- What stands in a text stands in it behind a front that ends outside of tokens. -/
theorem after {front : List Char} (hfront : Place.code.through front = .code)
    (h : Stands (start + Text.byteLength front) cs offset rest) :
    Stands start (front ++ cs) offset rest := by
  rcases h with ⟨more, rfl, hoffset, hmore⟩
  refine ⟨front ++ more, (List.append_assoc ..).symm, ?_, ?_⟩
  · rw [Text.byteLength_append, ← Nat.add_assoc]
    exact hoffset
  · rw [Place.through_append, hfront]
    exact hmore

/-- What stands behind a blank stands in the text that begins with the blank. -/
theorem after_blank {c : Char} (hc : Text.isBlank c = true)
    (h : Stands (start + c.utf8Size) cs offset rest) : Stands start (c :: cs) offset rest := by
  have hplace : Place.code.through [c] = .code := Place.after_code (ne_quote_of_isBlank hc)
  have hlength : Text.byteLength [c] = c.utf8Size := Text.byteLength_cons c []
  exact after hplace (by rwa [hlength])

/-- What stands behind a token stands in the text that begins with the token. -/
theorem after_token {c : Char} {cs : List Char} {t : Token} {n : Nat}
    (hscan : scan start c cs = .ok (t, n))
    (h : Stands (start + c.utf8Size + Text.byteLength (cs.take n)) (cs.drop n) offset rest) :
    Stands start (c :: cs) offset rest := by
  have hlength : start + Text.byteLength (c :: cs.take n) =
      start + c.utf8Size + Text.byteLength (cs.take n) := by
    rw [Text.byteLength_cons, Nat.add_assoc]
  have hstands := @after start offset (cs.drop n) rest (c :: cs.take n) (through_of_scan hscan)
    (by rwa [hlength])
  rwa [List.cons_append, List.take_append_drop] at hstands

end Stands

/-- Each lexeme is what the scanner finds at its offset. -/
theorem LaidOut.stands {start : Nat} {cs : List Char} {ls : List Lexeme}
    (h : LaidOut start cs ls) :
    ∀ l ∈ ls, ∃ c rest n, Stands start cs l.offset (c :: rest) ∧
      scan l.offset c rest = .ok (l.token, n) := by
  induction h with
  | nil offset => exact nofun
  | blank hc _ ih =>
      intro l hl
      rcases ih l hl with ⟨c, rest, n, hstands, hscan⟩
      exact ⟨c, rest, n, hstands.after_blank hc, hscan⟩
  | token hc hscan _ ih =>
      refine List.forall_mem_cons.2 ⟨⟨_, _, _, .here _ _, hscan⟩, fun l hl => ?_⟩
      rcases ih l hl with ⟨c, rest, n, hstands, hfound⟩
      exact ⟨c, rest, n, hstands.after_token hscan, hfound⟩

/-- Where a text cannot be lexed, the scanner fails at some offset. -/
theorem exists_stands_of_error {start : Nat} {cs : List Char} {e : Error}
    (h : lexFrom start cs = .error e) :
    ∃ offset c rest, Stands start cs offset (c :: rest) ∧ scan offset c rest = .error e := by
  induction start, cs using lexFrom.induct with
  | case1 start =>
      rw [lexFrom] at h
      cases h
  | case2 start c rest hc ih =>
      rw [lexFrom_blank hc] at h
      rcases ih h with ⟨offset, d, more, hstands, hscan⟩
      exact ⟨offset, d, more, hstands.after_blank hc, hscan⟩
  | case3 start c rest hc e' hscan =>
      rw [lexFrom_error (Bool.eq_false_iff.2 hc) hscan] at h
      cases h
      exact ⟨start, c, rest, .here _ _, hscan⟩
  | case4 start c rest hc t n hscan ih =>
      rw [lexFrom_token (Bool.eq_false_iff.2 hc) hscan] at h
      rcases ih (Except.map_eq_error_iff.1 h) with ⟨offset, d, more, hstands, hfound⟩
      exact ⟨offset, d, more, hstands.after_token hscan, hfound⟩

end Query
end Gleaner
