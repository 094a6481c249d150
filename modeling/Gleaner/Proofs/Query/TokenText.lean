import Gleaner.Proofs.Binary64.Whole
import Gleaner.Proofs.Query.Literal
import Gleaner.Proofs.Query.Writing
import Gleaner.Proofs.Text.Names
/-!
# Lexing of written tokens

The text of a token is lexed into that token, whatever follows under which it ends.

* `Token.Writable` says of which tokens a text can be written, and `Token.EndsBefore` that a token
  ends where a text begins;
* `tokens?_text` is the result for lexing, and `replaceWildcards_text` says that no wildcard is
  found in the text of a token.
-/

namespace Gleaner
namespace Query

/-! ## Characters -/

/-- What is tested of each character of a list holds of all of them. -/
theorem forall_mem_of_all {P : Char → Prop} [DecidablePred P] {cs : List Char}
    (h : (cs.all fun c => P c) = true) : ∀ c ∈ cs, P c := by
  simpa using h

/-! ## Scanning one token -/

/-- The front of a text is scanned as a token, and nothing after it. -/
theorem tokens?_of_scan {c : Char} (tail : List Char) {cs : List Char} {t : Token}
    (hc : Text.isBlank c = false) (h : scan 0 c (tail ++ cs) = .ok (t, tail.length)) :
    tokens? (c :: tail ++ cs) = (tokens? cs).map (t :: ·) := by
  rw [List.cons_append, tokens?_token hc, h]
  simp only [Except.toOption, Option.bind, List.drop_left]

/-- A character that is no blank and begins no token but a symbol. -/
def BeginsSymbol (c : Char) : Prop :=
  c ≠ '.' ∧ c ≠ '"' ∧ c.isDigit = false ∧ Text.isNameStart c = false ∧ Text.isBlank c = false

instance (c : Char) : Decidable (BeginsSymbol c) :=
  inferInstanceAs (Decidable (_ ∧ _ ∧ _ ∧ _ ∧ _))

/-- A symbol is a token of its own, where the scanner sees all of it. -/
theorem tokens?_symbol {c : Char} {t : Token} {cs : List Char} (tail : List Char)
    (hc : BeginsSymbol c) (h : symbol? c (tail ++ cs).head? = some (t, tail.length)) :
    tokens? (c :: tail ++ cs) = (tokens? cs).map (t :: ·) := by
  rcases hc with ⟨hdot, hquote, hdigit, hname, hblank⟩
  have hscan : scan 0 c (tail ++ cs) = .ok (t, tail.length) := by
    simp only [scan.eq_def, hdot, hquote, hdigit, hname, h, Bool.false_eq_true, if_false]
  exact tokens?_of_scan tail hblank hscan

/-- A dot is a token of its own unless another dot or a name stands behind it. -/
theorem scan_dot {rest : List Char} (h : ∀ c ∈ rest.head?, c ≠ '.' ∧ Text.isNameStart c = false) :
    scan 0 '.' rest = .ok (.dot, 0) := by
  rw [scan.eq_def, if_pos rfl]
  cases rest with
  | nil => rfl
  | cons c rest =>
      have hc := h c rfl
      simp [hc.1, hc.2]

theorem takeWhile_append_of_length_eq_zero {p : Char → Bool} {front cs : List Char}
    (hfront : ∀ c ∈ front, p c = true) (hcs : (cs.takeWhile p).length = 0) :
    (front ++ cs).takeWhile p = front := by
  rw [List.takeWhile_append_of_pos hfront, List.length_eq_zero_iff.1 hcs, List.append_nil]

/-- A name is found up to the first character that cannot go on in a name. -/
theorem scan_name {c : Char} {name cs : List Char} (hc : Text.isNameStart c = true)
    (hname : ∀ d ∈ name, Text.isNameChar d = true) (hcs : nameLength cs = 0) :
    scan 0 c (name ++ cs) = .ok (.ident (String.ofList (c :: name)), name.length) := by
  have hcode := Text.toNat_of_isNameStart hc
  have hdot : c ≠ '.' := ne_of_test hc rfl
  have hquote : c ≠ '"' := ne_of_test hc rfl
  have hdigit : c.isDigit = false := by
    cases h : c.isDigit with
    | false => rfl
    | true =>
        have := Text.toNat_of_isDigit h
        omega
  have htake := takeWhile_append_of_length_eq_zero hname hcs
  simp [scan.eq_def, hdot, hquote, hdigit, hc, nameLength, htake]

/-- Digits alone are a numeral where nothing behind them goes on in it. -/
theorem numeralLength_digits {digits cs : List Char} (hdigits : ∀ c ∈ digits, c.isDigit = true)
    (hcs : numeralLength cs = 0) : numeralLength (digits ++ cs) = digits.length := by
  have hwhole : digitsLength cs = 0 := by
    simp only [numeralLength] at hcs
    omega
  have hlength : digitsLength (digits ++ cs) = digits.length := by
    rw [digitsLength, takeWhile_append_of_length_eq_zero hdigits hwhole]
  simp only [numeralLength, hwhole, List.drop_zero, Nat.zero_add] at hcs
  simp only [numeralLength, hlength, List.drop_left]
  -- after the digits the text is measured as it is by itself
  have hfraction : fractionLength cs = 0 := by omega
  rw [hfraction] at hcs ⊢
  rw [List.drop_zero] at hcs
  rw [Nat.add_zero, List.drop_left]
  omega

/-- A digit begins a number, which goes as far as its numeral. -/
theorem scan_digit {c : Char} (hc : c.isDigit = true) (rest : List Char) :
    scan 0 c rest =
      .ok (.num ((Binary64.ofText? (c :: rest.take (numeralLength rest))).getD .nan),
        numeralLength rest) := by
  have hdot : c ≠ '.' := ne_of_test hc rfl
  have hquote : c ≠ '"' := ne_of_test hc rfl
  rw [scan.eq_def, if_neg hdot, if_neg hquote, if_pos hc]

/-- The digits of an integer below `2 ^ 53` are found as that number. -/
theorem scan_number {n : Nat} (hn : n < 2 ^ 53) {c : Char} {rest cs : List Char}
    (hdigits : Nat.toDigits 10 n = c :: rest) (hcs : numeralLength cs = 0) :
    scan 0 c (rest ++ cs) = .ok (.num (Binary64.ofInt n), rest.length) := by
  have hall : ∀ d ∈ c :: rest, d.isDigit = true := by
    rw [← hdigits]
    exact fun d hd => Binary64.isDigit_of_mem_toDigits hd
  have hlength := numeralLength_digits (fun d hd => hall d (List.mem_cons_of_mem c hd)) hcs
  have hvalue := Binary64.ofText?_toDigits hn
  rw [hdigits] at hvalue
  rw [scan_digit (hall c List.mem_cons_self), hlength, List.take_left, hvalue, Option.getD_some]

/-! ## One token -/

/--
A token that its text writes: a name is one, and a number is whole and small. The short form of a
member is never written.
-/
def Token.Writable : Token → Prop
  | .field _ => False
  | .ident name => Text.isName name = true
  | .num value => ∃ n : Nat, n < 2 ^ 53 ∧ value = Binary64.ofInt n
  | _ => True

/-- A token ends where a text begins; after a bracket no wildcard may begin. -/
def Token.EndsBefore : Token → List Char → Prop
  | .dot, cs => ∀ c ∈ cs.head?, c ≠ '.' ∧ Text.isNameStart c = false
  | .ident _, cs => nameLength cs = 0
  | .num _, cs => numeralLength cs = 0
  | .comparison .lt, cs | .comparison .gt, cs => cs.head? ≠ some '='
  | .operator .div, cs => cs.head? ≠ some '/'
  | .leftBracket, cs => cs.head? ≠ some '*'
  | _, _ => True

theorem text_num {n : Nat} (hn : n < 2 ^ 53) :
    (Token.num (Binary64.ofInt n)).text = Nat.toDigits 10 n := by
  rcases Binary64.ofInt_whole hn with ⟨x, hx, _, htrunc⟩
  rw [hx, Token.text, htrunc, Int.natAbs_natCast]

theorem symbol?_lt {next : Option Char} (h : next ≠ some '=') :
    symbol? '<' next = some (.comparison .lt, 0) := by
  unfold symbol?
  split <;> simp_all

theorem symbol?_gt {next : Option Char} (h : next ≠ some '=') :
    symbol? '>' next = some (.comparison .gt, 0) := by
  unfold symbol?
  split <;> simp_all

theorem symbol?_div {next : Option Char} (h : next ≠ some '/') :
    symbol? '/' next = some (.operator .div, 0) := by
  unfold symbol?
  split <;> simp_all

/-- The text of a token is lexed into the token. -/
theorem tokens?_text {t : Token} {cs : List Char} (ht : t.Writable) (hcs : t.EndsBefore cs) :
    tokens? (t.text ++ cs) = (tokens? cs).map (t :: ·) := by
  cases t with
  | dot => exact tokens?_of_scan [] (by decide) (scan_dot hcs)
  | dotDot => exact tokens?_of_scan ['.'] (by decide) rfl
  | field name => cases ht
  | ident name =>
      rcases Text.exists_cons_of_isName ht with ⟨c, rest, hname, hc, hrest⟩
      have hblank := Text.toNat_of_isNameStart hc
      have hscan := scan_name hc hrest hcs
      rw [← hname, String.ofList_toList] at hscan
      rw [Token.text, hname]
      exact tokens?_of_scan rest (Text.isBlank_eq_false (by omega) (by omega)) hscan
  | str text =>
      have hopen := openAfter?_of_stringBody (Json.stringBody_escaped text.toList)
      have hlit := tokens?_literal hopen cs
      rw [Json.readString?_escaped, String.ofList_toList] at hlit
      simpa [Token.text] using hlit
  | num value =>
      rcases ht with ⟨n, hn, rfl⟩
      rw [text_num hn]
      cases hdigits : Nat.toDigits 10 n with
      | nil => exact absurd hdigits Nat.toDigits_ne_nil
      | cons c rest =>
          have hmem : c ∈ Nat.toDigits 10 n := hdigits ▸ List.mem_cons_self
          have hcode := Text.toNat_of_isDigit (Binary64.isDigit_of_mem_toDigits hmem)
          exact tokens?_of_scan rest (Text.isBlank_eq_false (by omega) (by omega))
            (scan_number hn hdigits hcs)
  | leftBracket => exact tokens?_symbol [] (by decide) rfl
  | rightBracket => exact tokens?_symbol [] (by decide) rfl
  | leftParen => exact tokens?_symbol [] (by decide) rfl
  | rightParen => exact tokens?_symbol [] (by decide) rfl
  | comma => exact tokens?_symbol [] (by decide) rfl
  | colon => exact tokens?_symbol [] (by decide) rfl
  | semicolon => exact tokens?_symbol [] (by decide) rfl
  | pipe => exact tokens?_symbol [] (by decide) rfl
  | alternative => exact tokens?_symbol ['/'] (by decide) rfl
  | question => exact tokens?_symbol [] (by decide) rfl
  | comparison op =>
      cases op with
      | eq => exact tokens?_symbol ['='] (by decide) rfl
      | ne => exact tokens?_symbol ['='] (by decide) rfl
      | le => exact tokens?_symbol ['='] (by decide) rfl
      | ge => exact tokens?_symbol ['='] (by decide) rfl
      | lt => exact tokens?_symbol [] (by decide) (symbol?_lt hcs)
      | gt => exact tokens?_symbol [] (by decide) (symbol?_gt hcs)
  | operator op =>
      cases op with
      | div => exact tokens?_symbol [] (by decide) (symbol?_div hcs)
      | _ => exact tokens?_symbol [] (by decide) rfl

/-! ## Wildcards -/

theorem replaceWildcards_cons {c : Char} (hc : c ≠ '[') (hquote : c ≠ '"') (rest : List Char) :
    replaceWildcards .code (c :: rest) = c :: replaceWildcards .code rest := by
  rw [replaceWildcards, Place.after_code hquote]
  intro _ _ heq _
  exact hc heq

theorem replaceWildcards_bracket {cs : List Char} (h : cs.head? ≠ some '*') :
    replaceWildcards .code ('[' :: cs) = '[' :: replaceWildcards .code cs := by
  rw [replaceWildcards]
  · rfl
  · rintro rest _ _ rfl
    exact h rfl

/--
A text without brackets and quotes holds no wildcard, and the text behind it is read as before.
-/
theorem replaceWildcards_append {front : List Char} (h : ∀ c ∈ front, c ≠ '[' ∧ c ≠ '"')
    (cs : List Char) :
    replaceWildcards .code (front ++ cs) = front ++ replaceWildcards .code cs := by
  induction front with
  | nil => rfl
  | cons c front ih =>
      have hc := h c List.mem_cons_self
      rw [List.cons_append, replaceWildcards_cons hc.1 hc.2,
        ih fun d hd => h d (List.mem_cons_of_mem c hd)]
      rfl

/-- Inside of a literal nothing is replaced. -/
theorem replaceWildcards_of_ne_code {place : Place} (h : place ≠ .code) (c : Char)
    (rest : List Char) :
    replaceWildcards place (c :: rest) = c :: replaceWildcards (place.after c) rest := by
  rw [replaceWildcards]
  intro _ heq _ _
  exact h heq

theorem Place.inLiteral_ne_code (escaped : Bool) : Place.inLiteral escaped ≠ .code := by
  cases escaped <;> decide

/-- Nothing is replaced inside a literal. -/
theorem replaceWildcards_inLiteral {escaped e : Bool} {body : List Char}
    (h : openAfter? escaped body = some e) (cs : List Char) :
    replaceWildcards (.inLiteral escaped) (body ++ cs) =
      body ++ replaceWildcards (.inLiteral e) cs := by
  induction body generalizing escaped with
  | nil =>
      cases h
      rfl
  | cons c body ih =>
      rw [openAfter?_cons, Option.bind_eq_some_iff] at h
      rcases h with ⟨next, hnext, h⟩
      rw [List.cons_append, replaceWildcards_of_ne_code (Place.inLiteral_ne_code escaped),
        Place.after_inLiteral hnext, ih h, List.cons_append]

/-- Nothing is replaced in the text of a token. -/
theorem replaceWildcards_text {t : Token} {cs : List Char} (ht : t.Writable)
    (hcs : t.EndsBefore cs) :
    replaceWildcards .code (t.text ++ cs) = t.text ++ replaceWildcards .code cs := by
  cases t with
  | field name => cases ht
  | leftBracket => exact replaceWildcards_bracket hcs
  | str text =>
      have hopen := openAfter?_of_stringBody (Json.stringBody_escaped text.toList)
      have hbody := replaceWildcards_inLiteral hopen ('"' :: cs)
      have hclose := replaceWildcards_of_ne_code (Place.inLiteral_ne_code false) '"' cs
      have hcode : (Place.inLiteral false).after '"' = .code := rfl
      have hstart : ∀ rest, replaceWildcards .code ('"' :: rest) =
          '"' :: replaceWildcards (.inLiteral false) rest := fun rest => rfl
      rw [hcode] at hclose
      rw [hclose] at hbody
      simp only [Token.text, List.cons_append, List.append_assoc, List.nil_append, hstart, hbody]
  | ident name =>
      refine replaceWildcards_append (fun d hd => ?_) cs
      have hd := Text.isNameChar_of_mem ht hd
      exact ⟨ne_of_test hd rfl, ne_of_test hd rfl⟩
  | num value =>
      rcases ht with ⟨n, hn, rfl⟩
      rw [text_num hn]
      refine replaceWildcards_append (fun d hd => ?_) cs
      have hd := Binary64.isDigit_of_mem_toDigits hd
      exact ⟨ne_of_test hd rfl, ne_of_test hd rfl⟩
  | comparison op => exact replaceWildcards_append (forall_mem_of_all (by cases op <;> decide)) cs
  | operator op => exact replaceWildcards_append (forall_mem_of_all (by cases op <;> decide)) cs
  | _ => exact replaceWildcards_append (forall_mem_of_all (by decide)) cs

end Query
end Gleaner
