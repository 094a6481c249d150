import Gleaner.Proofs.Json.StringBody
import Gleaner.Proofs.Query.Span
import Gleaner.Query.Surface
/-!
# Lexing in parts

A string literal is a boundary between tokens: a text whose literals are all closed is lexed
independently of a quote that follows it.

* `tokens?` are the tokens of a text without their offsets, with one equation per kind of front;
* `Place.through` tells code from the inside of a literal, character by character;
* `tokens?_append_quote`: closed code and what begins with a quote are lexed apart;
* `place_of_tokens?`: only closed code can be lexed.
-/

namespace Gleaner
namespace Query

/-! ## Tokens without offsets -/

def tokens? (cs : List Char) : Option (List Token) :=
  (lex cs).toOption.map fun ls => ls.map Lexeme.token

/-- A text has tokens if it can be lexed. -/
theorem tokens?_eq_some_iff {cs : List Char} {ts : List Token} :
    tokens? cs = some ts ↔ ∃ ls, lex cs = .ok ls ∧ ls.map Lexeme.token = ts := by
  unfold tokens?
  cases lex cs with
  | error e => simp [Except.toOption]
  | ok ls => simp [Except.toOption]

/-- A text has no tokens if it cannot be lexed. -/
theorem tokens?_eq_none_iff {cs : List Char} : tokens? cs = none ↔ ∃ e, lex cs = .error e := by
  unfold tokens?
  cases lex cs with
  | error e => simp [Except.toOption]
  | ok ls => simp [Except.toOption]

/-- The token found does not depend on the offset. -/
theorem scan_toOption (offset offset' : Nat) (c : Char) (rest : List Char) :
    (scan offset c rest).toOption = (scan offset' c rest).toOption := by
  unfold scan
  repeat' split
  all_goals rfl

def tokensFrom? (offset : Nat) (cs : List Char) : Option (List Token) :=
  (lexFrom offset cs).toOption.map fun ls => ls.map Lexeme.token

theorem tokensFrom?_nil (offset : Nat) : tokensFrom? offset [] = some [] := by
  rw [tokensFrom?, lexFrom.eq_def]
  rfl

theorem tokensFrom?_blank {c : Char} (hc : Text.isBlank c = true) (offset : Nat)
    (rest : List Char) :
    tokensFrom? offset (c :: rest) = tokensFrom? (offset + c.utf8Size) rest := by
  rw [tokensFrom?, lexFrom.eq_def]
  simp [hc, tokensFrom?]

/-- At no blank, a token is found and the others behind it. -/
theorem tokensFrom?_token {c : Char} (hc : Text.isBlank c = false) (offset : Nat)
    (rest : List Char) :
    tokensFrom? offset (c :: rest) =
      (scan offset c rest).toOption.bind fun (token, n) =>
        (tokensFrom? (offset + c.utf8Size + Text.byteLength (rest.take n)) (rest.drop n)).map
          (token :: ·) := by
  rw [tokensFrom?, lexFrom.eq_def]
  simp only [hc, Bool.false_eq_true, if_false]
  cases scan offset c rest with
  | error e => rfl
  | ok found =>
      simp only [Except.toOption, Option.bind, tokensFrom?]
      cases lexFrom (offset + c.utf8Size + Text.byteLength (rest.take found.2))
        (rest.drop found.2) with
      | error e => rfl
      | ok ls => rfl

/-- Where a text begins has no influence on its tokens. -/
theorem tokensFrom?_eq (offset : Nat) (cs : List Char) : tokensFrom? offset cs = tokens? cs := by
  -- a token may take up several characters, so the induction is on the length
  have hany : ∀ (n : Nat) (cs : List Char), cs.length = n →
      ∀ offset offset' : Nat, tokensFrom? offset cs = tokensFrom? offset' cs := by
    intro n
    induction n using Nat.strongRecOn with
    | ind n ih =>
        intro cs hlen offset offset'
        cases cs with
        | nil => rw [tokensFrom?_nil, tokensFrom?_nil]
        | cons c rest =>
            subst hlen
            cases hc : Text.isBlank c with
            | true =>
                rw [tokensFrom?_blank hc, tokensFrom?_blank hc]
                exact ih rest.length (Nat.lt_succ_self _) rest rfl _ _
            | false =>
                rw [tokensFrom?_token hc, tokensFrom?_token hc, scan_toOption offset offset']
                refine congrArg _ (funext fun found => ?_)
                rcases found with ⟨token, n⟩
                have hshort : (rest.drop n).length < (c :: rest).length := by
                  simp only [List.length_drop, List.length_cons]
                  omega
                exact congrArg (Option.map _) (ih _ hshort _ rfl _ _)
  exact hany _ cs rfl offset 0

theorem tokens?_nil : tokens? [] = some [] :=
  tokensFrom?_nil 0

theorem tokens?_blank {c : Char} (hc : Text.isBlank c = true) (rest : List Char) :
    tokens? (c :: rest) = tokens? rest := by
  have h := tokensFrom?_blank hc 0 rest
  rwa [tokensFrom?_eq, tokensFrom?_eq] at h

theorem tokens?_token {c : Char} (hc : Text.isBlank c = false) (rest : List Char) :
    tokens? (c :: rest) =
      (scan 0 c rest).toOption.bind fun (token, n) => (tokens? (rest.drop n)).map (token :: ·) := by
  have h := tokensFrom?_token hc 0 rest
  simpa only [tokensFrom?_eq] using h

/-! ## The inside of a literal -/

/--
Whether the next character is escaped, after a text that leaves a literal open; none when a quote
in the text closes the literal.
-/
def openAfter? : (escaped : Bool) → List Char → Option Bool
  | escaped, [] => some escaped
  | true, _ :: rest => openAfter? false rest
  | false, c :: rest => if c = '"' then none else openAfter? (c == '\\') rest

/-- Whether the character after `c` is escaped; none when `c` closes the literal. -/
def nextOpen? (escaped : Bool) (c : Char) : Option Bool :=
  if escaped then some false else if c = '"' then none else some (c == '\\')

section Literal

variable {escaped next e : Bool} {c : Char} {cs body : List Char}

theorem nextOpen?_eq_none_iff : nextOpen? escaped c = none ↔ escaped = false ∧ c = '"' := by
  cases escaped <;> by_cases hc : c = '"' <;> simp [nextOpen?, hc]

theorem openAfter?_cons (escaped : Bool) (c : Char) (cs : List Char) :
    openAfter? escaped (c :: cs) = (nextOpen? escaped c).bind fun next => openAfter? next cs := by
  cases escaped with
  | true => rfl
  | false => by_cases hc : c = '"' <;> simp [openAfter?, nextOpen?, hc]

/-- Whether a literal is open is seen part by part. -/
theorem openAfter?_append (escaped : Bool) (a b : List Char) :
    openAfter? escaped (a ++ b) = (openAfter? escaped a).bind fun e => openAfter? e b := by
  induction a generalizing escaped with
  | nil => rfl
  | cons c a ih =>
      rw [List.cons_append, openAfter?_cons, openAfter?_cons, Option.bind_assoc]
      exact congrArg _ (funext fun next => ih next)

/-- A text closes a literal exactly when it is a body with a quote after it, and more. -/
theorem openAfter?_eq_none_iff :
    openAfter? escaped cs = none ↔
      ∃ body more, cs = body ++ '"' :: more ∧ openAfter? escaped body = some false := by
  constructor
  · intro h
    induction cs generalizing escaped with
    | nil => simp [openAfter?] at h
    | cons c cs ih =>
        cases hnext : nextOpen? escaped c with
        | none =>
            rcases nextOpen?_eq_none_iff.1 hnext with ⟨rfl, rfl⟩
            exact ⟨[], cs, rfl, rfl⟩
        | some next =>
            rw [openAfter?_cons, hnext] at h
            rcases ih h with ⟨body, more, rfl, hbody⟩
            exact ⟨c :: body, more, rfl, by rw [openAfter?_cons, hnext]; exact hbody⟩
  · rintro ⟨body, more, rfl, hbody⟩
    simp [openAfter?_append, hbody, openAfter?]

/-- A character that does not close the literal adds one to its length. -/
theorem literalLength?_cons (h : nextOpen? escaped c = some next) (cs : List Char) :
    literalLength? escaped (c :: cs) = (literalLength? next cs).map (· + 1) := by
  cases escaped with
  | true =>
      cases h
      rfl
  | false =>
      by_cases hc : c = '"'
      · simp [nextOpen?, hc] at h
      · simp only [nextOpen?, Bool.false_eq_true, if_false, hc, Option.some.injEq] at h
        rw [literalLength?, if_neg hc, h]

/-- A literal ends at the first quote that no backslash escapes. -/
theorem literalLength?_close (h : openAfter? escaped body = some false) (more : List Char) :
    literalLength? escaped (body ++ '"' :: more) = some (body.length + 1) := by
  induction body generalizing escaped with
  | nil =>
      cases h
      simp [literalLength?]
  | cons c body ih =>
      rw [openAfter?_cons, Option.bind_eq_some_iff] at h
      rcases h with ⟨next, hnext, h⟩
      rw [List.cons_append, literalLength?_cons hnext, ih h]
      rfl

/-- A literal without such a quote does not end. -/
theorem literalLength?_open (h : openAfter? escaped cs = some e) :
    literalLength? escaped cs = none := by
  induction cs generalizing escaped with
  | nil => cases escaped <;> rfl
  | cons c cs ih =>
      rw [openAfter?_cons, Option.bind_eq_some_iff] at h
      rcases h with ⟨next, hnext, h⟩
      rw [literalLength?_cons hnext, ih h]
      rfl

end Literal

theorem ne_quote_of_isBlank {c : Char} (h : Text.isBlank c = true) : c ≠ '"' := by
  rintro rfl
  cases h

/-- A literal is measured up to its closing quote, and read as a string. -/
theorem scan_quote (rest : List Char) :
    (scan 0 '"' rest).toOption =
      (literalLength? false rest).bind fun n =>
        (Json.readString? ('"' :: rest.take n)).map fun text => (.str text, n) := by
  simp only [scan]
  cases literalLength? false rest with
  | none => rfl
  | some n =>
      simp only [Option.bind]
      cases Json.readString? ('"' :: rest.take n) with
      | none => rfl
      | some text => rfl

/-- A closed literal is a token of its own. -/
theorem tokens?_literal {body : List Char} (h : openAfter? false body = some false)
    (more : List Char) :
    tokens? ('"' :: body ++ '"' :: more) =
      (Json.readString? ('"' :: body ++ ['"'])).bind fun text =>
        (tokens? more).map (.str text :: ·) := by
  have hblank : Text.isBlank '"' = false := by decide
  have hsplit : body ++ '"' :: more = (body ++ ['"']) ++ more := by simp
  have hlen : body.length + 1 = (body ++ ['"']).length := by simp
  rw [List.cons_append, tokens?_token hblank, scan_quote, literalLength?_close h]
  simp only [Option.bind]
  -- the closing quote is the last character that belongs to the token
  rw [hsplit, hlen, List.take_left, List.cons_append]
  cases Json.readString? ('"' :: (body ++ ['"'])) with
  | none => rfl
  | some text => simp

/-- A literal that is not closed cannot be read. -/
theorem tokens?_open {body : List Char} {e : Bool} (h : openAfter? false body = some e) :
    tokens? ('"' :: body) = none := by
  rw [tokens?_token (by decide), scan_quote, literalLength?_open h]
  rfl

/-! ## Code and literals -/

namespace Place

def inLiteral (escaped : Bool) : Place :=
  if escaped then .escaped else .literal

def through (p : Place) (cs : List Char) : Place :=
  cs.foldl after p

theorem through_append (p : Place) (a b : List Char) :
    p.through (a ++ b) = (p.through a).through b :=
  List.foldl_append

theorem through_cons (p : Place) (c : Char) (cs : List Char) :
    p.through (c :: cs) = (p.after c).through cs :=
  rfl

theorem after_code {c : Char} (hc : c ≠ '"') : Place.code.after c = .code := by
  simp [after, hc]

/-- Outside of literals only a quote leads into one. -/
theorem through_code {cs : List Char} (h : ∀ c ∈ cs, c ≠ '"') : Place.code.through cs = .code := by
  induction cs with
  | nil => rfl
  | cons c cs ih =>
      rw [through_cons, after_code (h c List.mem_cons_self)]
      exact ih fun d hd => h d (List.mem_cons_of_mem c hd)

/-- Being inside of a literal goes on as the lexer reads the literal. -/
theorem after_inLiteral {escaped next : Bool} {c : Char} (h : nextOpen? escaped c = some next) :
    (inLiteral escaped).after c = inLiteral next := by
  cases escaped with
  | true =>
      cases h
      rfl
  | false =>
      by_cases hc : c = '"'
      · simp [nextOpen?, hc] at h
      · simp only [nextOpen?, Bool.false_eq_true, if_false, hc, Option.some.injEq] at h
        subst h
        by_cases hslash : c = '\\' <;> simp [inLiteral, after, hc, hslash]

/-- A text that closes no literal leads from inside of a literal to inside of it. -/
theorem through_literal {escaped e : Bool} {body : List Char}
    (h : openAfter? escaped body = some e) : (inLiteral escaped).through body = inLiteral e := by
  induction body generalizing escaped with
  | nil =>
      cases h
      rfl
  | cons c body ih =>
      rw [openAfter?_cons, Option.bind_eq_some_iff] at h
      rcases h with ⟨next, hnext, h⟩
      rw [through_cons, after_inLiteral hnext]
      exact ih h

/-- After a closed literal there is code again. -/
theorem through_closed {body : List Char} (h : openAfter? false body = some false)
    (more : List Char) : code.through ('"' :: body ++ '"' :: more) = code.through more := by
  have hopen : code.after '"' = inLiteral false := rfl
  have hclose : (inLiteral false).after '"' = code := rfl
  rw [List.cons_append, through_cons, through_append, hopen, through_literal h, through_cons,
    hclose]

end Place

/-! ## Lexing in parts -/

/-- Induction on a text by what stands at its front. -/
theorem lexing_induction {motive : List Char → Prop} (nil : motive [])
    (blank : ∀ c rest, Text.isBlank c = true → motive rest → motive (c :: rest))
    (token : ∀ c rest t n, c ≠ '"' → Text.isBlank c = false → scan 0 c rest = .ok (t, n) →
      motive (rest.drop n) → motive (c :: rest))
    (unreadable : ∀ c rest e, c ≠ '"' → Text.isBlank c = false → scan 0 c rest = .error e →
      motive (c :: rest))
    (literal : ∀ body more, openAfter? false body = some false → motive more →
      motive ('"' :: body ++ '"' :: more))
    (unclosed : ∀ body e, openAfter? false body = some e → motive ('"' :: body))
    (cs : List Char) : motive cs := by
  have hall : ∀ (n : Nat) (cs : List Char), cs.length = n → motive cs := by
    intro n
    induction n using Nat.strongRecOn with
    | ind n ih =>
        intro cs hlen
        subst hlen
        cases cs with
        | nil => exact nil
        | cons c rest =>
            by_cases hquote : c = '"'
            · -- a literal, which some later quote closes or none does
              subst hquote
              cases hopen : openAfter? false rest with
              | some e => exact unclosed rest e hopen
              | none =>
                  rcases openAfter?_eq_none_iff.1 hopen with ⟨body, more, rfl, hbody⟩
                  refine literal body more hbody (ih more.length ?_ more rfl)
                  simp only [List.length_cons, List.length_append]
                  omega
            · cases hblank : Text.isBlank c with
              | true => exact blank c rest hblank (ih rest.length (Nat.lt_succ_self _) rest rfl)
              | false =>
                  cases hscan : scan 0 c rest with
                  | error e => exact unreadable c rest e hquote hblank hscan
                  | ok found =>
                      refine token c rest found.1 found.2 hquote hblank hscan (ih _ ?_ _ rfl)
                      simp only [List.length_drop, List.length_cons]
                      omega
  exact hall _ cs rfl

/-- Passing over a token does not lead into a literal. -/
theorem through_drop_of_scan {c : Char} (hc : c ≠ '"') {rest : List Char} {t : Token} {n : Nat}
    (h : scan 0 c rest = .ok (t, n)) :
    Place.code.through (c :: rest) = Place.code.through (rest.drop n) := by
  have hplain := (scan_plain hc h).2
  have hsplit : c :: rest = (c :: rest.take n) ++ rest.drop n := by
    rw [List.cons_append, List.take_append_drop]
  rw [hsplit, Place.through_append, Place.through_code fun x hx => (hplain x hx).1]

/-- Closed code and what begins with a quote are lexed apart. -/
theorem tokens?_append_quote {cs : List Char} (h : Place.code.through cs = .code)
    (more : List Char) :
    tokens? (cs ++ '"' :: more) =
      (tokens? cs).bind fun ts => (tokens? ('"' :: more)).map (ts ++ ·) := by
  induction cs using lexing_induction with
  | nil => simp [tokens?_nil]
  | blank c rest hblank ih =>
      have hc := ne_quote_of_isBlank hblank
      rw [List.cons_append, tokens?_blank hblank, tokens?_blank hblank]
      exact ih (by rwa [Place.through_cons, Place.after_code hc] at h)
  | token c rest t n hc hblank hscan ih =>
      -- the token ends before the quote, so the scanner finds the same one
      have hlen := (scan_plain hc hscan).1
      rw [List.cons_append, tokens?_token hblank, tokens?_token hblank,
        scan_append_stop endsTokens_quote hc, hscan]
      simp only [Except.toOption, Option.bind]
      rw [List.drop_append_of_le_length hlen, ih (by rwa [← through_drop_of_scan hc hscan])]
      cases tokens? (rest.drop n) with
      | none => rfl
      | some ts => cases tokens? ('"' :: more) <;> simp
  | unreadable c rest e hc hblank hscan =>
      rw [List.cons_append, tokens?_token hblank, tokens?_token hblank,
        scan_append_stop endsTokens_quote hc, hscan]
      rfl
  | literal body rest hbody ih =>
      have hsplit : ('"' :: body ++ '"' :: rest) ++ '"' :: more =
          '"' :: body ++ '"' :: (rest ++ '"' :: more) := by simp
      rw [hsplit, tokens?_literal hbody, tokens?_literal hbody,
        ih (by rwa [Place.through_closed hbody] at h)]
      -- whether the literal, the rest and the text after the quote can be read
      cases Json.readString? ('"' :: body ++ ['"']) with
      | none => rfl
      | some text =>
          cases tokens? rest with
          | none => rfl
          | some ts => cases tokens? ('"' :: more) <;> simp
  | unclosed body e hbody =>
      -- the text would end in a literal, not in code
      have hplace := Place.through_literal hbody
      have hopen : Place.code.after '"' = .inLiteral false := rfl
      rw [Place.through_cons, hopen, hplace] at h
      cases e <;> cases h

/-- Only code whose literals are closed can be lexed. -/
theorem place_of_tokens? {cs : List Char} {ts : List Token} (h : tokens? cs = some ts) :
    Place.code.through cs = .code := by
  induction cs using lexing_induction generalizing ts with
  | nil => rfl
  | blank c rest hblank ih =>
      have hc := ne_quote_of_isBlank hblank
      rw [tokens?_blank hblank] at h
      rw [Place.through_cons, Place.after_code hc]
      exact ih h
  | token c rest t n hc hblank hscan ih =>
      rw [tokens?_token hblank, hscan] at h
      rcases Option.map_eq_some_iff.1 h with ⟨us, hus, _⟩
      rw [through_drop_of_scan hc hscan]
      exact ih hus
  | unreadable c rest e hc hblank hscan =>
      rw [tokens?_token hblank, hscan] at h
      cases h
  | literal body rest hbody ih =>
      rw [tokens?_literal hbody] at h
      rcases Option.bind_eq_some_iff.1 h with ⟨text, _, hmore⟩
      rcases Option.map_eq_some_iff.1 hmore with ⟨us, hus, _⟩
      rw [Place.through_closed hbody]
      exact ih hus
  | unclosed body e hbody =>
      rw [tokens?_open hbody] at h
      cases h

/-- Code in front of the first literal has no backslash, where a text can be lexed. -/
theorem backslash_not_mem_of_tokens? {cs : List Char} {ts : List Token}
    (h : tokens? cs = some ts) : '\\' ∉ cs.takeWhile (· != '"') := by
  induction cs using lexing_induction generalizing ts with
  | nil => simp
  | blank c rest hblank ih =>
      have hquote := ne_quote_of_isBlank hblank
      have hslash : c ≠ '\\' := by
        rintro rfl
        cases hblank
      rw [tokens?_blank hblank] at h
      simpa [hquote, hslash.symm] using ih h
  | token c rest t n hc hblank hscan ih =>
      have hplain := (scan_plain hc hscan).2
      rw [tokens?_token hblank, hscan] at h
      rcases Option.map_eq_some_iff.1 h with ⟨us, hus, _⟩
      have hsplit : c :: rest = (c :: rest.take n) ++ rest.drop n := by
        rw [List.cons_append, List.take_append_drop]
      have hfront : ∀ x ∈ c :: rest.take n, (x != '"') = true := by
        intro x hx
        simpa using (hplain x hx).1
      rw [hsplit, List.takeWhile_append_of_pos hfront]
      -- the backslash is not in the token, and the rest has none before its first literal
      intro hmem
      rcases List.mem_append.1 hmem with hleft | hright
      · exact (hplain _ hleft).2 rfl
      · exact ih hus hright
  | unreadable c rest e hc hblank hscan =>
      rw [tokens?_token hblank, hscan] at h
      cases h
  | literal body rest hbody ih => simp
  | unclosed body e hbody => simp

end Query
end Gleaner
