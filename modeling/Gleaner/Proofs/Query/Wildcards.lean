import Gleaner.Proofs.Query.Layout
import Gleaner.Proofs.Query.WrittenText
/-!
# Wildcards and tokens

The surface form `[*]` is rewritten in the text, before it is lexed. The rewriting finds its way
through the text by itself, and has to leave every token but the star as it is.

* `scan_replaceWildcards`: no token reaches over a bracket, so the rewriting changes none;
* `withoutWildcards` are the tokens of lexemes, without the star of each `[*]` that stands together;
* `lex_replaceWildcards`: these are the tokens of the rewritten text, and normal texts stay as they
  are.
-/

namespace Gleaner
namespace Query

/-! ## The rewritten text -/

/-- A character that begins no wildcard is left. -/
theorem replaceWildcards_of_no_wildcard {place : Place} {c : Char} {rest : List Char}
    (h : place = .code → c = '[' → ∀ more, rest ≠ '*' :: ']' :: more) :
    replaceWildcards place (c :: rest) = c :: replaceWildcards (place.after c) rest := by
  rw [replaceWildcards]
  intro more hplace hc heq
  exact h hplace hc more heq

/-- A literal is left as it is, and what follows it is replaced as code. -/
theorem replaceWildcards_literal {body : List Char} (h : openAfter? false body = some false)
    (more : List Char) :
    replaceWildcards .code ('"' :: body ++ '"' :: more) =
      '"' :: body ++ '"' :: replaceWildcards .code more := by
  have hopen : Place.code.after '"' = .inLiteral false := rfl
  have hclose : (Place.inLiteral false).after '"' = .code := rfl
  rw [List.cons_append, replaceWildcards_of_no_wildcard (by simp), hopen,
    replaceWildcards_inLiteral h, replaceWildcards_of_ne_code (Place.inLiteral_ne_code false),
    hclose, List.cons_append]

/-- A text and its rewritten form are the same, at least up to some opening bracket. -/
theorem replaceWildcards_front (place : Place) (cs : List Char) :
    replaceWildcards place cs = cs ∨
      ∃ front more more', cs = front ++ '[' :: more ∧
        replaceWildcards place cs = front ++ '[' :: more' := by
  induction place, cs using replaceWildcards.induct with
  | case1 rest ih => exact .inr ⟨[], _, _, rfl, by rw [replaceWildcards]; rfl⟩
  | case2 place c rest hother ih =>
      rw [replaceWildcards_of_no_wildcard fun hplace hc more heq => hother more hplace hc heq]
      rcases ih with heq | ⟨front, more, more', hcs, hout⟩
      · exact .inl (congrArg (c :: ·) heq)
      · exact .inr ⟨c :: front, more, more', congrArg (c :: ·) hcs, congrArg (c :: ·) hout⟩
  | case3 place => exact .inl (by rw [replaceWildcards])

/-- The rewriting of what follows makes no difference to a token. -/
theorem scan_replaceWildcards {c : Char} (hc : c ≠ '"') (offset : Nat) (front : List Char)
    (place : Place) (rest : List Char) :
    scan offset c (front ++ replaceWildcards place rest) = scan offset c (front ++ rest) := by
  rcases replaceWildcards_front place rest with heq | ⟨shared, more, more', hrest, hout⟩
  · rw [heq]
  · rw [hout, hrest, ← List.append_assoc, ← List.append_assoc,
      scan_append_stop endsTokens_bracket hc, scan_append_stop endsTokens_bracket hc]

/-- A token is the same at every offset. -/
theorem scan_eq_ok {c : Char} {offset : Nat} {rest : List Char} {found : Token × Nat}
    (h : scan offset c rest = .ok found) (offset' : Nat) : scan offset' c rest = .ok found := by
  have hsame := scan_toOption offset' offset c rest
  rw [h] at hsame
  cases hscan : scan offset' c rest with
  | error e =>
      rw [hscan] at hsame
      cases hsame
  | ok found' =>
      rw [hscan] at hsame
      cases hsame
      rfl

/-- Wildcards are replaced behind their bracket. -/
theorem head?_replaceWildcards (place : Place) (cs : List Char) :
    (replaceWildcards place cs).head? = cs.head? := by
  cases place, cs using replaceWildcards.fun_cases_unfolding with
  | case1 rest => rfl
  | case2 place c rest hother => rfl
  | case3 place => rfl

/-- Wildcards are replaced before their closing bracket. -/
theorem getLast?_replaceWildcards (place : Place) (cs : List Char) :
    (replaceWildcards place cs).getLast? = cs.getLast? := by
  induction place, cs using replaceWildcards.induct_unfolding with
  | case1 rest ih => simp [List.getLast?_cons, ih]
  | case2 place c rest hother ih => simp [List.getLast?_cons, ih]
  | case3 place => rfl

/-! ## The tokens of the rewritten text -/

/-- A bracket, a star and a bracket that stand together, without blanks between them. -/
def IsWildcard (a b c : Lexeme) : Prop :=
  a.token = .leftBracket ∧ b = ⟨.operator .mul, a.offset + 1⟩ ∧ c = ⟨.rightBracket, a.offset + 2⟩

instance (a b c : Lexeme) : Decidable (IsWildcard a b c) :=
  inferInstanceAs (Decidable (_ ∧ _ ∧ _))

/-- The tokens of lexemes, without the star of each wildcard. -/
def withoutWildcards : List Lexeme → List Token
  | a :: b :: c :: ls =>
    if IsWildcard a b c then a.token :: c.token :: withoutWildcards ls
    else a.token :: withoutWildcards (b :: c :: ls)
  | ls => ls.map Lexeme.token

/-- A lexeme that begins no wildcard is left. -/
theorem withoutWildcards_cons {a : Lexeme} {ls : List Lexeme}
    (h : ∀ b c more, ls = b :: c :: more → ¬IsWildcard a b c) :
    withoutWildcards (a :: ls) = a.token :: withoutWildcards ls := by
  rcases ls with _ | ⟨b, _ | ⟨c, ls⟩⟩
  · rfl
  · rfl
  · rw [withoutWildcards, if_neg (h b c ls rfl)]

theorem withoutWildcards_of_ne {a : Lexeme} (ha : a.token ≠ .leftBracket) (ls : List Lexeme) :
    withoutWildcards (a :: ls) = a.token :: withoutWildcards ls :=
  withoutWildcards_cons fun _ _ _ _ hwild => ha hwild.1

/-- Only stars are left out. -/
theorem filter_withoutWildcards (ls : List Lexeme) :
    (withoutWildcards ls).filter (· != .operator .mul) =
      (ls.map Lexeme.token).filter (· != .operator .mul) := by
  induction ls using withoutWildcards.induct with
  | case1 a b c ls hwild ih =>
      rcases hwild with ⟨ha, hb, hc⟩
      rw [withoutWildcards, if_pos ⟨ha, hb, hc⟩]
      simp [ha, hb, hc, ih]
  | case2 a b c ls hother ih =>
      rw [withoutWildcards, if_neg hother, List.filter_cons, List.map_cons, List.filter_cons, ih]
  | case3 ls hshort =>
      rw [withoutWildcards]
      exact hshort

/-- A symbol at the front is the first lexeme. -/
theorem LaidOut.symbol {start : Nat} {c : Char} {rest : List Char} {t : Token} {ls : List Lexeme}
    (h : LaidOut start (c :: rest) ls) (hscan : scan start c rest = .ok (t, 0))
    (hblank : Text.isBlank c = false) :
    ∃ more, ls = ⟨t, start⟩ :: more ∧ LaidOut (start + c.utf8Size) rest more := by
  cases h with
  | blank hc _ =>
      rw [hblank] at hc
      cases hc
  | token _ hfound hrest =>
      rw [hscan] at hfound
      cases hfound
      exact ⟨_, rfl, hrest⟩

/-- The lexemes of a star and a bracket at the front. -/
theorem LaidOut.wildcard_iff {start : Nat} {rest : List Char} {ls : List Lexeme}
    (h : LaidOut start rest ls) :
    (∃ more, rest = '*' :: ']' :: more) ↔
      ∃ more, ls = ⟨.operator .mul, start⟩ :: ⟨.rightBracket, start + 1⟩ :: more := by
  constructor
  · rintro ⟨more, rfl⟩
    rcases h.symbol rfl (by decide) with ⟨ls, rfl, hstar⟩
    rcases hstar.symbol rfl (by decide) with ⟨ls, rfl, _⟩
    exact ⟨ls, rfl⟩
  · rintro ⟨more, rfl⟩
    rcases h.head rfl with ⟨c, rest, n, rfl, hscan, hrest⟩
    have hstar := beginsWith_of_scan hscan
    cases hstar
    cases hscan
    rcases hrest.head rfl with ⟨c, rest, n, hrest, hscan, _⟩
    have hbracket := beginsWith_of_scan hscan
    cases hbracket
    exact ⟨rest, congrArg ('*' :: ·) hrest⟩

/-- After a bracket, the star of a wildcard is left out of the text and of the tokens. -/
theorem tokens?_replaceWildcards_bracket {offset : Nat} {rest : List Char} {ls : List Lexeme}
    (h : LaidOut (offset + 1) rest ls)
    (hrest : tokens? (replaceWildcards .code rest) = some (withoutWildcards ls)) :
    tokens? (replaceWildcards .code ('[' :: rest)) =
      some (withoutWildcards (⟨.leftBracket, offset⟩ :: ls)) := by
  have hbracket : ∀ cs, tokens? ('[' :: cs) = (tokens? cs).map (.leftBracket :: ·) :=
    fun cs => tokens?_of_scan [] (by decide) rfl
  by_cases hwild : ∃ more, rest = '*' :: ']' :: more
  · -- what follows the wildcard is rewritten alike, with its star and bracket before it
    rcases h.wildcard_iff.1 hwild with ⟨ls, rfl⟩
    rcases hwild with ⟨more, rfl⟩
    have hstar : ∀ cs, tokens? ('*' :: cs) = (tokens? cs).map (.operator .mul :: ·) :=
      fun cs => tokens?_of_scan [] (by decide) rfl
    have hclose : ∀ cs, tokens? (']' :: cs) = (tokens? cs).map (.rightBracket :: ·) :=
      fun cs => tokens?_of_scan [] (by decide) rfl
    rw [replaceWildcards_cons (by decide) (by decide),
      replaceWildcards_cons (by decide) (by decide), hstar, hclose,
      withoutWildcards_of_ne (by simp), withoutWildcards_of_ne (by simp)] at hrest
    have hmore : tokens? (replaceWildcards .code more) = some (withoutWildcards ls) := by
      simpa using hrest
    rw [replaceWildcards, withoutWildcards, if_pos ⟨rfl, rfl, rfl⟩, hbracket, hclose, hmore]
    rfl
  · have hno : ∀ b c more, ls = b :: c :: more → ¬IsWildcard ⟨.leftBracket, offset⟩ b c := by
      rintro b c more rfl ⟨_, rfl, rfl⟩
      exact hwild (h.wildcard_iff.2 ⟨more, rfl⟩)
    rw [replaceWildcards_of_no_wildcard, withoutWildcards_cons hno, hbracket]
    · exact congrArg (Option.map (.leftBracket :: ·)) hrest
    · rintro _ _ more rfl
      exact hwild ⟨more, rfl⟩

/-- Any token but a literal and a bracket is copied, and stays what it is. -/
theorem tokens?_replaceWildcards_plain {offset : Nat} {c : Char} {rest : List Char} {t : Token}
    {n : Nat} (hblank : Text.isBlank c = false) (hquote : c ≠ '"') (hbracket : c ≠ '[')
    (hscan : scan offset c rest = .ok (t, n)) :
    tokens? (replaceWildcards .code (c :: rest)) =
      (tokens? (replaceWildcards .code (rest.drop n))).map (t :: ·) := by
  have hplain := scan_plain hquote hscan
  have hinside := not_mem_of_scan endsTokens_bracket hquote hscan
  -- the token holds nothing that is rewritten or opens a literal
  have hcopy : ∀ x ∈ c :: rest.take n, x ≠ '[' ∧ x ≠ '"' := by
    intro x hx
    refine ⟨?_, (hplain.2 x hx).1⟩
    rintro rfl
    rcases List.mem_cons.1 hx with heq | hx
    · exact hbracket heq.symm
    · exact hinside hx
  -- and the scanner finds it again before the rewritten rest
  have hlen : (rest.take n).length = n := List.length_take_of_le hplain.1
  have hfound : scan 0 c (rest.take n ++ replaceWildcards .code (rest.drop n)) =
      .ok (t, (rest.take n).length) := by
    rw [scan_replaceWildcards hquote, List.take_append_drop, hlen]
    exact scan_eq_ok hscan 0
  have hsplit : c :: rest = (c :: rest.take n) ++ rest.drop n := by
    rw [List.cons_append, List.take_append_drop]
  rw [hsplit, replaceWildcards_append hcopy, tokens?_of_scan _ hblank hfound]

/-- The rewritten text is lexed into the tokens of the text, without the stars of wildcards. -/
theorem tokens?_replaceWildcards {start : Nat} {cs : List Char} {ls : List Lexeme}
    (h : LaidOut start cs ls) :
    tokens? (replaceWildcards .code cs) = some (withoutWildcards ls) := by
  induction h with
  | nil offset => exact tokens?_nil
  | @blank offset c rest ls hc _ ih =>
      have hbracket : c ≠ '[' := by
        rintro rfl
        cases hc
      rw [replaceWildcards_cons hbracket (ne_quote_of_isBlank hc), tokens?_blank hc, ih]
  | @token offset c rest t n ls hblank hscan hrest ih =>
      by_cases hquote : c = '"'
      · -- a literal is copied, and is a token of its own
        subst hquote
        rcases exists_literal_of_scan hscan with ⟨body, more, text, rfl, rfl, rfl, hbody, htext⟩
        have hdrop : (body ++ '"' :: more).drop (body.length + 1) = more := by
          simp [List.drop_append]
        rw [hdrop] at ih
        rw [← List.cons_append, replaceWildcards_literal hbody, tokens?_literal hbody, htext, ih,
          withoutWildcards_of_ne (by simp)]
        rfl
      · by_cases hbracket : c = '['
        · subst hbracket
          cases hscan
          exact tokens?_replaceWildcards_bracket hrest ih
        · have hother : t ≠ .leftBracket := by
            rintro rfl
            exact hbracket (Option.some.inj (beginsWith_of_scan hscan)).symm
          rw [tokens?_replaceWildcards_plain hblank hquote hbracket hscan, ih,
            withoutWildcards_of_ne hother]
          rfl

/-! ## Normal texts -/

theorem exists_cons_replaceWildcards {place : Place} {cs more : List Char} {c : Char}
    (h : replaceWildcards place cs = c :: more) : ∃ rest, cs = c :: rest := by
  have hhead := head?_replaceWildcards place cs
  rw [h] at hhead
  exact List.head?_eq_some_iff.1 hhead.symm

/-- No wildcard is made by leaving out stars. -/
theorem replaceWildcards_ne_wildcard {cs : List Char} (h : ∀ more, cs ≠ '*' :: ']' :: more) :
    ∀ more, replaceWildcards .code cs ≠ '*' :: ']' :: more := by
  intro more heq
  rcases exists_cons_replaceWildcards heq with ⟨rest, rfl⟩
  rw [replaceWildcards_cons (by decide) (by decide)] at heq
  rcases exists_cons_replaceWildcards (List.cons.inj heq).2 with ⟨rest, rfl⟩
  exact h rest rfl

/-- Wildcards are replaced once: what is written for them holds none. -/
theorem replaceWildcards_replaceWildcards (place : Place) (cs : List Char) :
    replaceWildcards place (replaceWildcards place cs) = replaceWildcards place cs := by
  induction place, cs using replaceWildcards.induct with
  | case1 rest ih =>
      rw [replaceWildcards, replaceWildcards_bracket (by simp),
        replaceWildcards_cons (by decide) (by decide), ih]
  | case2 place c rest hother ih =>
      have hno : place = .code → c = '[' → ∀ more, rest ≠ '*' :: ']' :: more :=
        fun hplace hc more heq => hother more hplace hc heq
      rw [replaceWildcards_of_no_wildcard hno, replaceWildcards_of_no_wildcard, ih]
      rintro rfl rfl
      exact replaceWildcards_ne_wildcard (hno rfl rfl)
  | case3 place => rw [replaceWildcards, replaceWildcards]

theorem anchored_eq_self_iff {cs : List Char} :
    anchored cs = cs ↔ cs ≠ ['$'] ∧ ∀ rest, cs ≠ '$' :: '.' :: rest ∧ cs ≠ '$' :: '[' :: rest := by
  fun_cases anchored cs <;> simp_all

theorem anchored_anchored (cs : List Char) : anchored (anchored cs) = anchored cs := by
  fun_cases anchored cs <;> simp_all [anchored]

/-- Whether a text is anchored shows at its front, where a star is left out only after a bracket. -/
theorem anchored_replaceWildcards {cs : List Char} (h : anchored cs = cs) :
    anchored (replaceWildcards .code cs) = replaceWildcards .code cs := by
  rcases anchored_eq_self_iff.1 h with ⟨halone, hbefore⟩
  -- the rewriting leaves an anchor alone, and a point or a bracket after it
  have hdollar : ∀ more, replaceWildcards .code cs = '$' :: more →
      ∃ rest, cs = '$' :: rest ∧ replaceWildcards .code rest = more := by
    intro more heq
    rcases exists_cons_replaceWildcards heq with ⟨rest, rfl⟩
    rw [replaceWildcards_cons (by decide) (by decide)] at heq
    exact ⟨rest, rfl, (List.cons.inj heq).2⟩
  refine anchored_eq_self_iff.2 ⟨fun heq => ?_, fun rest => ⟨fun heq => ?_, fun heq => ?_⟩⟩
  · rcases hdollar _ heq with ⟨rest, rfl, hrest⟩
    have hhead := head?_replaceWildcards .code rest
    rw [hrest] at hhead
    rw [List.head?_eq_none_iff.1 hhead.symm] at halone
    exact halone rfl
  · rcases hdollar _ heq with ⟨more, rfl, hmore⟩
    rcases exists_cons_replaceWildcards hmore with ⟨after, rfl⟩
    exact (hbefore after).1 rfl
  · rcases hdollar _ heq with ⟨more, rfl, hmore⟩
    rcases exists_cons_replaceWildcards hmore with ⟨after, rfl⟩
    exact (hbefore after).2 rfl

/-- A text without blanks at its ends has none at its ends once anchored. -/
theorem bare_anchored {cs : List Char} (h : Text.Bare cs) : Text.Bare (anchored cs) := by
  have hpoint : ∀ c ∈ some '.', Text.isBlank c = false := by
    rintro _ ⟨⟩
    decide
  fun_cases anchored cs with
  | case1 => exact ⟨hpoint, hpoint⟩
  | case2 rest => exact ⟨hpoint, by simpa using h.last⟩
  | case3 rest => exact ⟨hpoint, by simpa using h.last⟩
  | case4 => exact h

/-- A normalized query is normalized to itself. -/
theorem normalize_normalize (cs : List Char) : normalize (normalize cs) = normalize cs := by
  have hbare : Text.Bare (normalize cs) := by
    have hanchored := bare_anchored (Text.bare_trim cs)
    rw [normalize]
    constructor
    · rw [head?_replaceWildcards]
      exact hanchored.head
    · rw [getLast?_replaceWildcards]
      exact hanchored.last
  have hanchor : anchored (normalize cs) = normalize cs :=
    anchored_replaceWildcards (anchored_anchored _)
  rw [normalize, Text.trim_eq_self_iff.2 hbare, hanchor]
  exact replaceWildcards_replaceWildcards _ _

/--
The rewritten text of a text that can be lexed has the same tokens, but for the stars of wildcards.
A normal text stays as it is.
-/
theorem lex_replaceWildcards (cs : List Char) :
    (∀ ls, lex cs = .ok ls →
      ∃ ls', lex (replaceWildcards .code cs) = .ok ls' ∧
        ls'.map Lexeme.token = withoutWildcards ls ∧
        (ls'.map Lexeme.token).filter (· != .operator .mul) =
          (ls.map Lexeme.token).filter (· != .operator .mul)) ∧
      normalize (normalize cs) = normalize cs := by
  refine ⟨fun ls hls => ?_, normalize_normalize cs⟩
  have htokens := tokens?_replaceWildcards (lexFrom_eq_ok_iff.1 hls)
  rcases tokens?_eq_some_iff.1 htokens with ⟨ls', hls', hsame⟩
  exact ⟨ls', hls', hsame, by rw [hsame, filter_withoutWildcards]⟩

/-- A literal with an escaped quote and a bracketed star, a wildcard, and a star between blanks. -/
def starredText : List Char :=
  "\"\\\"[*]\"+.b[*]*[ * ]".toList

/-- The lexemes of `starredText`. -/
def starredLexemes : List Lexeme :=
  [⟨.str "\"[*]", 0⟩, ⟨.operator .add, 7⟩, ⟨.field "b", 8⟩, ⟨.leftBracket, 10⟩,
    ⟨.operator .mul, 11⟩, ⟨.rightBracket, 12⟩, ⟨.operator .mul, 13⟩, ⟨.leftBracket, 14⟩,
    ⟨.operator .mul, 16⟩, ⟨.rightBracket, 18⟩]

/-- Stars in a literal, between brackets, and apart from them. -/
theorem lex_replaceWildcards_of_starredText :
    lex starredText = .ok starredLexemes ∧
      ∃ ls, lex (replaceWildcards .code starredText) = .ok ls ∧
        ls.map Lexeme.token =
          [.str "\"[*]", .operator .add, .field "b", .leftBracket, .rightBracket, .operator .mul,
            .leftBracket, .operator .mul, .rightBracket] := by
  have hlex : lex starredText = .ok starredLexemes := by cbv
  rcases (lex_replaceWildcards starredText).1 starredLexemes hlex with ⟨ls, hls, htokens, _⟩
  exact ⟨hlex, ls, hls, htokens.trans (by decide)⟩

end Query
end Gleaner
