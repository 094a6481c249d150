import Gleaner.Proofs.Text.Pieces
import Gleaner.Template
/-!
# String expressions of paths

A text is denoted by one literal, or by the concatenation of several. A literal of the path language
ends at the next quote of its own kind, so it cannot hold that quote.

* `XPath.StringExpression text value` says that `text` is such an expression for `value`;
* `stringExpression_literalChars`: what is written for a text denotes it;
* `literalAfter` finds the literal that is open after a text, by scanning its quotes;
* `literalAfter_stringExpression`: a string expression leaves no literal open.
-/

namespace Gleaner
namespace XPath

/-! ## The relation -/

/-- A literal: a quote and a content without that quote. -/
structure Literal where
  quote : Char
  content : List Char
  isQuote : Template.isQuote quote = true
  closed : quote ∉ content

def Literal.text (l : Literal) : List Char :=
  l.quote :: l.content ++ [l.quote]

/-- The name of the function that concatenates, with its opening parenthesis. -/
def concatOpening : List Char :=
  ['c', 'o', 'n', 'c', 'a', 't', '(']

theorem toList_concatOpening : "concat(".toList = concatOpening := by
  decide

def concatText (ls : List Literal) : List Char :=
  concatOpening ++ [',', ' '].intercalate (ls.map Literal.text) ++ [')']

/-- A text that denotes a value: a literal, or the concatenation of two or more. -/
inductive StringExpression : List Char → List Char → Prop where
  | literal (l : Literal) : StringExpression l.text l.content
  | concat (ls : List Literal) :
      2 ≤ ls.length → StringExpression (concatText ls) (ls.flatMap Literal.content)

/-! ## Writing a text as a string expression -/

/-- The literals for the chunks between apostrophes spell the chunks and the apostrophes. -/
theorem literalParts_eq {chunks : List (List Char)} (h : ∀ chunk ∈ chunks, '\'' ∉ chunk) :
    ∃ ls : List Literal, literalParts chunks = ls.map Literal.text ∧
      ls.flatMap Literal.content = ['\''].intercalate chunks := by
  have hchunk : ∀ chunk ∈ chunks, ∃ ls : List Literal,
      literalParts.chunkLiteral chunk = ls.map Literal.text ∧
        ls.flatMap Literal.content = chunk := by
    intro chunk hmem
    by_cases hnil : chunk = []
    · exact ⟨[], by simp [literalParts.chunkLiteral, hnil], by simp [hnil]⟩
    · refine ⟨[⟨'\'', chunk, rfl, h chunk hmem⟩], ?_, by simp⟩
      simp [literalParts.chunkLiteral, hnil, Literal.text]
  induction chunks with
  | nil => exact ⟨[], rfl, rfl⟩
  | cons chunk rest ih =>
      rcases hchunk chunk List.mem_cons_self with ⟨first, hfirst, hfirstContent⟩
      rcases ih (fun c hc => h c (List.mem_cons_of_mem _ hc))
        (fun c hc => hchunk c (List.mem_cons_of_mem _ hc)) with ⟨more, hmore, hmoreContent⟩
      cases rest with
      | nil => exact ⟨first, by simpa [literalParts] using hfirst, by simpa using hfirstContent⟩
      | cons next rest =>
          -- between two chunks stands an apostrophe, as a literal in the other quotes
          refine ⟨first ++ ⟨'"', ['\''], rfl, by decide⟩ :: more, ?_, ?_⟩
          · simp [literalParts, hfirst, hmore, Literal.text]
          · rw [List.intercalate_cons_cons, ← hmoreContent, ← hfirstContent]
            simp

/-- Several literals are needed for a text with both quotes. -/
theorem two_le_length {ls : List Literal} (hquote : '"' ∈ ls.flatMap Literal.content)
    (hapostrophe : '\'' ∈ ls.flatMap Literal.content) : 2 ≤ ls.length := by
  match ls with
  | [] => simp at hquote
  | [l] =>
      rw [List.flatMap_cons, List.flatMap_nil, List.append_nil] at hquote hapostrophe
      rcases Template.isQuote_iff.1 l.isQuote with hl | hl
      · exact absurd (hl ▸ hquote) l.closed
      · exact absurd (hl ▸ hapostrophe) l.closed
  | l :: l' :: rest => simp

/-- What is written for a text denotes that text. -/
theorem stringExpression_literalChars (cs : List Char) : StringExpression (literalChars cs) cs := by
  unfold literalChars
  by_cases hquote : '"' ∈ cs
  · have hquote' : cs.contains '"' = true := by simpa using hquote
    by_cases hapostrophe : '\'' ∈ cs
    · have hapostrophe' : cs.contains '\'' = true := by simpa using hapostrophe
      -- neither quote can enclose the text, so it is cut at the apostrophes
      have hchunks : ∀ chunk ∈ Text.pieces ['\''] cs, '\'' ∉ chunk := fun chunk hchunk hmem =>
        Text.not_infix_of_mem_pieces (List.cons_ne_nil _ _) hchunk
          ((List.singleton_infix_iff _ _).2 hmem)
      rcases literalParts_eq hchunks with ⟨ls, hls, hcontent⟩
      rw [Text.intercalate_pieces] at hcontent
      have hlen := two_le_length (hcontent ▸ hquote) (hcontent ▸ hapostrophe)
      have hconcat := StringExpression.concat ls hlen
      simp only [hquote', hapostrophe', Bool.not_true, Bool.false_eq_true, if_false, hls,
        toList_concatOpening]
      rwa [hcontent] at hconcat
    · simpa [hquote, hapostrophe, Literal.text] using
        StringExpression.literal ⟨'\'', cs, rfl, hapostrophe⟩
  · simpa [hquote, Literal.text] using StringExpression.literal ⟨'"', cs, rfl, hquote⟩

/-! ## Scanning literals -/

/-- The quote of the literal that is open after one more character. -/
def literalNext : Option Char → Char → Option Char
  | none, c => if Template.isQuote c then some c else none
  | some q, c => if c = q then none else some q

/-- The quote of the open literal after a text, if one is open; a literal ends at its own quote. -/
def literalAfter (state : Option Char) (cs : List Char) : Option Char :=
  cs.foldl literalNext state

theorem literalAfter_cons (state : Option Char) (c : Char) (cs : List Char) :
    literalAfter state (c :: cs) = literalAfter (literalNext state c) cs :=
  rfl

theorem literalAfter_append (state : Option Char) (a b : List Char) :
    literalAfter state (a ++ b) = literalAfter (literalAfter state a) b :=
  List.foldl_append

/-- Outside of literals, a text without quotes opens none. -/
theorem literalAfter_code {cs : List Char} (h : ∀ c ∈ cs, Template.isQuote c = false) :
    literalAfter none cs = none := by
  induction cs with
  | nil => rfl
  | cons c cs ih =>
      have hc : literalNext none c = none := by simp [literalNext, h c List.mem_cons_self]
      rw [literalAfter_cons, hc]
      exact ih fun d hd => h d (List.mem_cons_of_mem c hd)

/-- A text without the quote of a literal leaves the literal open. -/
theorem literalAfter_content {q : Char} {cs : List Char} (h : q ∉ cs) :
    literalAfter (some q) cs = some q := by
  induction cs with
  | nil => rfl
  | cons c cs ih =>
      have hc : c ≠ q := fun heq => h (heq ▸ List.mem_cons_self)
      rw [literalAfter_cons, literalNext, if_neg hc]
      exact ih fun hmem => h (List.mem_cons_of_mem c hmem)

/-- A literal is closed at its end. -/
theorem literalAfter_literal (l : Literal) : literalAfter none l.text = none := by
  have hopen : literalNext none l.quote = some l.quote := by simp [literalNext, l.isQuote]
  have hclose : literalNext (some l.quote) l.quote = none := by simp [literalNext]
  calc
    literalAfter none l.text
        = literalAfter (literalNext none l.quote) (l.content ++ [l.quote]) := rfl
    _ = literalAfter (literalAfter (some l.quote) l.content) [l.quote] := by
          rw [hopen, literalAfter_append]
    _ = literalNext (some l.quote) l.quote := by
          rw [literalAfter_content l.closed]
          rfl
    _ = none := hclose

/-- Literals with commas between them are closed at the end. -/
theorem literalAfter_literals (ls : List Literal) :
    literalAfter none ([',', ' '].intercalate (ls.map Literal.text)) = none := by
  match ls with
  | [] => rfl
  | [l] => simpa using literalAfter_literal l
  | l :: l' :: rest =>
      have hcomma : literalAfter none [',', ' '] = none := rfl
      rw [List.map_cons, List.map_cons, List.intercalate_cons_cons, literalAfter_append,
        literalAfter_append, literalAfter_literal, hcomma, ← List.map_cons]
      exact literalAfter_literals (l' :: rest)

/-- A string expression opens no literal that it does not close. -/
theorem literalAfter_stringExpression {text value : List Char} (h : StringExpression text value) :
    literalAfter none text = none := by
  cases h with
  | literal l => exact literalAfter_literal l
  | concat ls _ =>
      have hname : literalAfter none concatOpening = none := rfl
      have hparen : literalAfter none [')'] = none := rfl
      rw [concatText, literalAfter_append, literalAfter_append, hname, literalAfter_literals,
        hparen]

end XPath
end Gleaner
