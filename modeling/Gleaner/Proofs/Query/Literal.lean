import Gleaner.Proofs.Query.Lexing
/-!
# What a literal may hold

The lexer finds the end of a literal by its own count of backslashes, the reader of the literal
takes escape sequences apart. Here the two are compared.

* `openAfter?_of_stringBody`: what the reader accepts between two quotes leaves the literal open;
* `stringBody_escapedQuote`: an escaped quote ends no escape sequence but its own, so the text up to
  it can be read whatever follows;
* `readable_append_escaped`: whether a literal that ends in a written value can be read does not
  depend on the value.
-/

namespace Gleaner
namespace Query

open Json

/-! ## Escape sequences leave a literal open -/

/-- A plain character neither closes a literal nor escapes anything in it. -/
theorem openAfter?_plain {c : Char} (hc : IsPlain c) (cs : List Char) :
    openAfter? false (c :: cs) = openAfter? false cs := by
  have hfalse : (c == '\\') = false := beq_eq_false_iff_ne.2 hc.2
  rw [openAfter?, if_neg hc.1, hfalse]

/-- Plain characters neither close a literal nor begin an escape. -/
theorem openAfter?_append_plain {cs : List Char} (h : ∀ c ∈ cs, IsPlain c) (rest : List Char) :
    openAfter? false (cs ++ rest) = openAfter? false rest := by
  induction cs with
  | nil => rfl
  | cons c cs ih =>
      have hmore : ∀ d ∈ cs, IsPlain d := fun d hd => h d (List.mem_cons_of_mem c hd)
      rw [List.cons_append, openAfter?_plain (h c List.mem_cons_self), ih hmore]

/-- What is read as a number consists of digits. -/
theorem digits_of_numeral? {base : Nat} {digits : List Char} {n : Nat}
    (h : Text.numeral? base digits = some n) : ∀ c ∈ digits, (Text.digitValue? c).isSome := by
  unfold Text.numeral? at h
  generalize 0 = start at h
  induction digits generalizing start with
  | nil =>
      intro c hc
      cases hc
  | cons d digits ih =>
      rw [List.foldlM_cons] at h
      rcases Option.bind_eq_some_iff.1 h with ⟨next, hnext, hmore⟩
      rcases Option.bind_eq_some_iff.1 hnext with ⟨value, hvalue, _⟩
      intro c hc
      rcases List.mem_cons.1 hc with rfl | hrest
      · simp [hvalue]
      · exact ih next hmore c hrest

theorem isPlain_of_isHex4 {h : List Char} {n : Nat} (hex : IsHex4 h n) :
    ∀ c ∈ h, IsPlain c := by
  intro c hc
  have htest := isPlain_of_test (p := fun c => (Text.digitValue? c).isSome) (by decide) (by decide)
  exact htest c (digits_of_numeral? hex.2 c hc)

/-- Behind an escape a literal goes on as behind a plain character. -/
theorem openAfter?_escapeForm {e : List Char} (h : EscapeForm e) (rest : List Char) :
    openAfter? true (e ++ rest) = openAfter? false rest := by
  cases h with
  | simple x => rfl
  | unit hex => exact openAfter?_append_plain (isPlain_of_isHex4 hex) rest
  | @pair h h' n n' hex hex' =>
      have hfirst := openAfter?_append_plain (isPlain_of_isHex4 hex) ('\\' :: 'u' :: h' ++ rest)
      have hsecond := openAfter?_append_plain (isPlain_of_isHex4 hex') rest
      simpa [openAfter?] using hfirst.trans hsecond

/-- What stands for one character whatever follows it has one of the three forms. -/
theorem escapeForm_of_escapeFor {e : List Char} {c : Char} (h : EscapeFor e c) : EscapeForm e := by
  rcases readEscape?_eq_some (h []) with ⟨e', heq, _, hform⟩
  rw [List.append_nil, List.append_nil] at heq
  rwa [heq]

/-- A literal is still open behind the body of a string, and no escape has begun. -/
theorem openAfter?_of_stringBody {text cs : List Char} (h : StringBody text cs) :
    openAfter? false text = some false := by
  induction h with
  | nil => rfl
  | plain hquote hslash _ _ ih => rw [openAfter?_plain ⟨hquote, hslash⟩, ih]
  | @escape e c text cs he _ ih =>
      have hescape := openAfter?_escapeForm (escapeForm_of_escapeFor he) text
      rw [ih] at hescape
      exact hescape

/-! ## Escaped quotes -/

/-- Plain characters in front of another text end before a backslash of that text. -/
theorem append_eq_backslash {h x a y : List Char} (hplain : ∀ c ∈ h, IsPlain c)
    (heq : h ++ x = a ++ '\\' :: y) : ∃ a', a = h ++ a' ∧ x = a' ++ '\\' :: y := by
  rcases List.append_eq_append_iff.1 heq with ⟨a', rfl, hx⟩ | ⟨l, rfl, hy⟩
  · exact ⟨a', rfl, hx⟩
  · cases l with
    | nil => exact ⟨[], by simp, by simpa using hy.symm⟩
    | cons c l =>
        cases hy
        exact absurd rfl (hplain '\\' (by simp)).2

/-- An escape sequence that begins before an escaped quote ends before it. -/
theorem escapeForm_before_quote {e x a y : List Char} (hform : EscapeForm e)
    (ha : openAfter? true a = some false) (heq : e ++ x = a ++ '\\' :: '"' :: y) :
    ∃ a', a = e ++ a' ∧ x = a' ++ '\\' :: '"' :: y := by
  cases a with
  | nil => cases ha
  | cons c a =>
      -- the sequence and the text before the quote begin with the same character
      cases hform with
      | simple d =>
          rcases List.cons.inj heq with ⟨rfl, hx⟩
          exact ⟨a, rfl, hx⟩
      | @unit h n hex =>
          rcases List.cons.inj heq with ⟨rfl, hrest⟩
          rcases append_eq_backslash (isPlain_of_isHex4 hex) hrest with ⟨a', rfl, hx⟩
          exact ⟨a', rfl, hx⟩
      | @pair h h' n n' hex hex' =>
          rcases List.cons.inj heq with ⟨rfl, hrest⟩
          have hplain := isPlain_of_isHex4 hex
          have hassoc : h ++ ('\\' :: 'u' :: h' ++ x) = a ++ '\\' :: '"' :: y := by
            rw [← List.append_assoc]
            exact hrest
          rcases append_eq_backslash hplain hassoc with ⟨b, rfl, hb⟩
          have hopen : openAfter? false b = some false := by
            rw [← openAfter?_append_plain hplain]
            exact ha
          -- the second half of the pair begins with the letter `u`, the escaped quote does not
          match b, hb, hopen with
          | [], hb, _ => simp at hb
          | [d], hb, hopen =>
              have hd : d = '\\' := (List.cons.inj hb).1.symm
              simp [openAfter?, hd] at hopen
          | d :: u :: b, hb, _ =>
              have hd := (List.cons.inj hb).1
              have hu := (List.cons.inj (List.cons.inj hb).2).1
              have hlast : h' ++ x = b ++ '\\' :: '"' :: y := (List.cons.inj (List.cons.inj hb).2).2
              rcases append_eq_backslash (isPlain_of_isHex4 hex') hlast with ⟨a', rfl, hx⟩
              exact ⟨a', by simp [← hd, ← hu], hx⟩

/-- The text up to an escaped quote can be read whatever follows. -/
theorem stringBody_escapedQuote {text cs : List Char} (h : StringBody text cs) :
    ∀ {a t : List Char}, text = a ++ '\\' :: '"' :: t → openAfter? false a = some false →
      ∃ ds, StringBody (a ++ ['\\', '"']) ds := by
  induction h with
  | nil =>
      intro a t heq _
      simp at heq
  | @plain c text cs hquote hslash hlow _ ih =>
      intro a t heq ha
      cases a with
      | nil => exact absurd (List.cons.inj heq).1 hslash
      | cons d a =>
          rcases List.cons.inj heq with ⟨rfl, hrest⟩
          have hopen : openAfter? false a = some false := by
            rwa [openAfter?_plain ⟨hquote, hslash⟩] at ha
          rcases ih hrest hopen with ⟨ds, hds⟩
          exact ⟨c :: ds, .plain hquote hslash hlow hds⟩
  | @escape e c text cs he _ ih =>
      intro a t heq ha
      have hform := escapeForm_of_escapeFor he
      cases a with
      | nil =>
          -- the escape sequence is that of the quote itself
          have hrest : e ++ text = '"' :: t := (List.cons.inj heq).2
          cases hform with
          | simple d =>
              have hd : d = '"' := (List.cons.inj hrest).1
              rw [hd] at he
              exact ⟨[c], .escape he .nil⟩
          | unit hex => cases (List.cons.inj hrest).1
          | pair hex hex' => cases (List.cons.inj hrest).1
      | cons d a =>
          rcases List.cons.inj heq with ⟨rfl, hrest⟩
          rcases escapeForm_before_quote hform ha hrest with ⟨a', rfl, htext⟩
          have ha' : openAfter? false a' = some false := by
            rw [← openAfter?_escapeForm hform]
            exact ha
          rcases ih htext ha' with ⟨ds, hds⟩
          refine ⟨c :: ds, ?_⟩
          rw [List.cons_append, List.append_assoc]
          exact .escape he hds

/-- A body is the text before a written value when it is empty or ends in an escaped quote. -/
def EndsEscaped (a : List Char) : Prop :=
  a = [] ∨ ∃ front, a = front ++ ['\\', '"'] ∧ openAfter? false front = some false

/-- Whether a literal that ends in a written value can be read does not depend on the value. -/
theorem readable_append_escaped {a : List Char} (ha : EndsEscaped a) (cs : List Char) :
    (∃ ds, StringBody (a ++ escaped cs) ds) ↔ ∃ ds, StringBody a ds := by
  constructor
  · -- the body ends where an escape sequence ends, so it can be read without the value
    rintro ⟨ds, hds⟩
    rcases ha with rfl | ⟨front, rfl, hfront⟩
    · exact ⟨[], .nil⟩
    · exact stringBody_escapedQuote hds (List.append_assoc _ _ _) hfront
  · rintro ⟨ds, hds⟩
    exact ⟨ds ++ cs, hds.append (stringBody_escaped cs)⟩

end Query
end Gleaner
