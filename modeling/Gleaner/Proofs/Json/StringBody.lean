import Gleaner.Json.Reader
import Gleaner.Json.Written
/-!
# The inside of string literals

`Json.StringBody text cs` says that a text between two quotes spells the characters `cs`: each
character stands for itself or is written by an escape sequence. The reader and the writer of string
literals are both compared with this relation:

* `readString?_quoted_iff`: a quoted text is read exactly when it is the body of a literal;
* `stringBody_escaped`: what the writer puts between the quotes spells the text it was given;
* `readString?_escaped`: reading undoes writing.
-/

namespace Gleaner
namespace Json

/-! ## The relation -/

/-- An escape sequence, after its backslash, that is read as one character whatever follows it. -/
def EscapeFor (e : List Char) (c : Char) : Prop :=
  ∀ rest, readEscape? (e ++ rest) = some (c, rest)

/-- A text that spells characters between two quotes. -/
inductive StringBody : List Char → List Char → Prop where
  | nil : StringBody [] []
  | plain {c : Char} {text cs : List Char} :
      c ≠ '"' → c ≠ '\\' → 32 ≤ c.toNat → StringBody text cs → StringBody (c :: text) (c :: cs)
  | escape {e : List Char} {c : Char} {text cs : List Char} :
      EscapeFor e c → StringBody text cs → StringBody ('\\' :: e ++ text) (c :: cs)

/-- Bodies in a row stand for their texts in a row. -/
theorem StringBody.append {a b cs ds : List Char} (ha : StringBody a cs) (hb : StringBody b ds) :
    StringBody (a ++ b) (cs ++ ds) := by
  induction ha with
  | nil => exact hb
  | plain hquote hslash hlow _ ih => exact .plain hquote hslash hlow ih
  | escape he _ ih =>
      simpa using StringBody.escape he ih

/-! ## Escape sequences -/

def IsHex4 (h : List Char) (n : Nat) : Prop :=
  h.length = 4 ∧ Text.numeral? 16 h = some n

/-- Four hexadecimal digits are read as their number, whatever follows. -/
theorem readHex4?_append {h rest : List Char} {n : Nat} (hex : IsHex4 h n) :
    readHex4? (h ++ rest) = some (n, rest) := by
  rcases hex with ⟨hlen, hn⟩
  match h, hlen with
  | [a, b, c, d], _ => simp [readHex4?, hn]

/-- Four hexadecimal digits are taken off the front. -/
theorem readHex4?_eq_some {cs rest : List Char} {n : Nat} (h : readHex4? cs = some (n, rest)) :
    ∃ hex, cs = hex ++ rest ∧ IsHex4 hex n := by
  unfold readHex4? at h
  split at h
  · rename_i a b c d more
    rcases Option.map_eq_some_iff.1 h with ⟨m, hm, heq⟩
    cases heq
    exact ⟨[a, b, c, d], rfl, rfl, hm⟩
  · cases h

/-- The three forms of escape sequences, after the backslash. -/
inductive EscapeForm : List Char → Prop where
  | simple (x : Char) : EscapeForm [x]
  | unit {h : List Char} {n : Nat} : IsHex4 h n → EscapeForm ('u' :: h)
  | pair {h h' : List Char} {n n' : Nat} :
      IsHex4 h n → IsHex4 h' n' → EscapeForm ('u' :: h ++ '\\' :: 'u' :: h')

/-- An escape that is read has one of the forms, and stands for the character read. -/
theorem readEscape?_eq_some {cs rest : List Char} {c : Char}
    (h : readEscape? cs = some (c, rest)) :
    ∃ e, cs = e ++ rest ∧ EscapeFor e c ∧ EscapeForm e := by
  unfold readEscape? at h
  split at h
  case h_9 tail =>
    -- four digits, and four more where the first four are half of a pair
    rcases Option.bind_eq_some_iff.1 h with ⟨⟨high, after⟩, hhigh, hrest⟩
    rcases readHex4?_eq_some hhigh with ⟨hex, rfl, hhex⟩
    by_cases hpair : 0xD800 ≤ high ∧ high < 0xDC00
    · simp only [hpair, and_self, if_true] at hrest
      split at hrest
      · rename_i more
        rcases Option.bind_eq_some_iff.1 hrest with ⟨⟨low, last⟩, hlow, hlast⟩
        rcases readHex4?_eq_some hlow with ⟨hex', rfl, hhex'⟩
        by_cases hrange : 0xDC00 ≤ low ∧ low < 0xE000
        · simp only [hrange, and_self, if_true, Option.some.injEq, Prod.mk.injEq] at hlast
          rcases hlast with ⟨rfl, rfl⟩
          refine ⟨'u' :: hex ++ '\\' :: 'u' :: hex', by simp, ?_, .pair hhex hhex'⟩
          intro r
          simp [readEscape?, readHex4?_append hhex, readHex4?_append hhex', hpair, hrange]
        · simp [hrange] at hlast
      · cases hrest
    · simp only [hpair, if_false] at hrest
      by_cases hlone : 0xDC00 ≤ high ∧ high < 0xE000
      · simp [hlone] at hrest
      · simp only [hlone, if_false, Option.some.injEq, Prod.mk.injEq] at hrest
        rcases hrest with ⟨rfl, rfl⟩
        refine ⟨'u' :: hex, by simp, ?_, .unit hhex⟩
        intro r
        simp [readEscape?, readHex4?_append hhex, hpair, hlone]
  case h_10 => cases h
  -- what remains are the escapes of one character
  all_goals
    cases h
    exact ⟨[_], rfl, fun r => by simp [readEscape?], .simple _⟩

/-! ## Reading -/

/-- One step of fuel for each character of the content is enough, with one for the quote. -/
theorem readStringTail?_of_stringBody {text cs : List Char} (h : StringBody text cs) :
    ∀ (fuel : Nat) (rest : List Char), cs.length < fuel →
      readStringTail? fuel (text ++ '"' :: rest) = some (cs, rest) := by
  induction h with
  | nil =>
      intro fuel rest hfuel
      cases fuel with
      | zero => cases hfuel
      | succ fuel => simp [readStringTail?]
  | @plain c text cs hquote hslash hlow _ ih =>
      intro fuel rest hfuel
      cases fuel with
      | zero => cases hfuel
      | succ fuel =>
          have hmore := ih fuel rest (Nat.lt_of_succ_lt_succ hfuel)
          have hnot : ¬ c.toNat < 32 := Nat.not_lt.2 hlow
          rw [List.cons_append, readStringTail?]
          · simp [hnot, hmore]
          · exact hquote
          · exact hslash
  | @escape e c text cs he _ ih =>
      intro fuel rest hfuel
      cases fuel with
      | zero => cases hfuel
      | succ fuel =>
          have hmore := ih fuel rest (Nat.lt_of_succ_lt_succ hfuel)
          have hread : readEscape? (e ++ (text ++ '"' :: rest)) = some (c, text ++ '"' :: rest) :=
            he _
          simp [readStringTail?, hread, hmore]

/-- What is read up to a closing quote is the body of a string. -/
theorem stringBody_of_readStringTail? :
    ∀ {fuel : Nat} {t cs rest : List Char}, readStringTail? fuel t = some (cs, rest) →
      ∃ text, t = text ++ '"' :: rest ∧ StringBody text cs := by
  intro fuel
  induction fuel with
  | zero =>
      intro t cs rest h
      simp [readStringTail?] at h
  | succ fuel ih =>
      intro t cs rest h
      unfold readStringTail? at h
      split at h
      · cases h
      · cases h
      · cases h
        exact ⟨[], rfl, .nil⟩
      · rename_i heq
        cases heq
        rcases Option.bind_eq_some_iff.1 h with ⟨⟨c, after⟩, hc, hmore⟩
        rcases Option.bind_eq_some_iff.1 hmore with ⟨⟨ds, last⟩, hds, hlast⟩
        cases hlast
        rcases readEscape?_eq_some hc with ⟨e, rfl, he, _⟩
        rcases ih hds with ⟨text, rfl, hbody⟩
        exact ⟨'\\' :: e ++ text, by simp, .escape he hbody⟩
      · -- a character that stands for itself, unless it is a control character
        rename_i c more hquote hslash heq
        cases heq
        by_cases hlow : c.toNat < 32
        · simp [hlow] at h
        · simp only [hlow, if_false] at h
          rcases Option.map_eq_some_iff.1 h with ⟨⟨ds, last⟩, hds, hlast⟩
          cases hlast
          rcases ih hds with ⟨text, rfl, hbody⟩
          exact ⟨c :: text, rfl, .plain hquote hslash (Nat.not_lt.1 hlow) hbody⟩

/-- Escapes only make the text longer than what it stands for. -/
theorem StringBody.length_le {text cs : List Char} (h : StringBody text cs) :
    cs.length ≤ text.length := by
  induction h with
  | nil => exact Nat.le_refl _
  | plain _ _ _ _ ih => simpa using ih
  | escape _ _ ih =>
      simp only [List.length_cons, List.cons_append, List.length_append]
      omega

/-- A text between two quotes is a string literal exactly when it is the body of one. -/
theorem readString?_quoted_iff (text : List Char) (s : String) :
    readString? ('"' :: text ++ ['"']) = some s ↔ StringBody text s.toList := by
  constructor
  · intro h
    simp only [readString?, List.cons_append] at h
    split at h
    · rename_i cs hcs
      cases h
      rcases stringBody_of_readStringTail? hcs with ⟨body, hbody, hspell⟩
      have htext : text = body := List.append_cancel_right hbody
      simpa [htext] using hspell
    · cases h
  · intro h
    have hlen := h.length_le
    have hread : readStringTail? ((text ++ ['"']).length + 1) (text ++ ['"']) =
        some (s.toList, []) := by
      refine readStringTail?_of_stringBody h _ [] ?_
      rw [List.length_append]
      omega
    simp only [readString?, List.cons_append, hread, String.ofList_toList]

/-! ## Writing -/

/-- The four digits written for a control character have its number as their value. -/
theorem hex4_escapedChar {n : Nat} (hn : n < 32) :
    IsHex4 ['0', '0', Text.hexDigit (n / 16), Text.hexDigit n] n := by
  have hzero : Text.digitValue? '0' = some 0 := by decide
  refine ⟨rfl, ?_⟩
  simp only [Text.numeral?, List.foldlM_cons, List.foldlM_nil, hzero, Text.digitValue?_hexDigit]
  have hhigh : n / 16 % 16 < 16 := Nat.mod_lt _ (by decide)
  have hlow : n % 16 < 16 := Nat.mod_lt _ (by decide)
  simp only [bind, Option.bind, hhigh, hlow, pure]
  simp
  omega

/-- A control character is escaped by its number. -/
theorem escapeFor_control {c : Char} (hc : c.toNat < 32) :
    EscapeFor ['u', '0', '0', Text.hexDigit (c.toNat / 16), Text.hexDigit c.toNat] c := by
  intro rest
  have hread : readHex4? (_ ++ rest) = some (c.toNat, rest) :=
    readHex4?_append (hex4_escapedChar hc)
  simp only [List.cons_append, List.nil_append] at hread
  have hhigh : ¬ (0xD800 ≤ c.toNat ∧ c.toNat < 0xDC00) := by omega
  have hlow : ¬ (0xDC00 ≤ c.toNat ∧ c.toNat < 0xE000) := by omega
  simp only [List.cons_append, List.nil_append, readEscape?, hread, bind, Option.bind, hhigh, hlow,
    if_false, Char.ofNat_toNat]

/-- A character as written is the body of the one-character string. -/
theorem stringBody_escapedChar (c : Char) : StringBody (escapedChar c) [c] := by
  have single : ∀ (x : Char) (c : Char), EscapeFor [x] c → StringBody ['\\', x] [c] := by
    intro x c h
    exact .escape h .nil
  unfold escapedChar
  split
  -- five characters have an escape of one character, two more are told by their code
  · exact single _ _ fun r => rfl
  · exact single _ _ fun r => rfl
  · exact single _ _ fun r => rfl
  · exact single _ _ fun r => rfl
  · exact single _ _ fun r => rfl
  · rename_i hquote hslash _ _ _
    by_cases h8 : c.toNat = 8
    · have hc : c = Char.ofNat 8 := by rw [← h8, Char.ofNat_toNat]
      simp only [h8, if_true]
      exact single _ _ fun r => by rw [hc]; rfl
    · by_cases h12 : c.toNat = 12
      · have hc : c = Char.ofNat 12 := by rw [← h12, Char.ofNat_toNat]
        simp only [h12, if_true]
        exact single _ _ fun r => by rw [hc]; rfl
      · by_cases hlow : c.toNat < 32
        · simp only [h8, h12, hlow, if_true, if_false]
          exact .escape (escapeFor_control hlow) .nil
        · simp only [h8, h12, hlow, if_false]
          exact .plain hquote hslash (Nat.not_lt.1 hlow) .nil

/-- What stands between the quotes of a written literal spells the text. -/
theorem stringBody_escaped (cs : List Char) : StringBody (escaped cs) cs := by
  induction cs with
  | nil => exact .nil
  | cons c cs ih =>
      exact (stringBody_escapedChar c).append ih

/-- Reading a written literal gives back its text. -/
theorem readString?_escaped (cs : List Char) :
    readString? ('"' :: escaped cs ++ ['"']) = some (String.ofList cs) := by
  rw [readString?_quoted_iff]
  simpa using stringBody_escaped cs

end Json
end Gleaner
