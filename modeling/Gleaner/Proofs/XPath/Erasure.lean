import Gleaner.Proofs.XPath.StringExpression
import Gleaner.Xml.Name
/-!
# Paths without their string expressions

What remains of a path when every complete string expression is erased: each literal, and each call
of `concat` whose arguments are string expressions. One pass over the text is enough. It keeps the
symbols read so far in reverse, puts one mark for a finished string expression, and at a closing
parenthesis looks back for the call that ends there.

* `Symbol` is a character or the mark of a string expression;
* `closed` ends a call at a closing parenthesis, if there is one to end;
* `Scan` is the state of the pass, `Scan.next` one step of it;
* `erased` is what remains of a text;
* `after_stringExpression`: a string expression leaves one mark, unless it goes on with a name.
-/

namespace Gleaner
namespace XPath

/-! ## Symbols -/

/-- A character of a path, or a finished string expression. -/
inductive Symbol where
  | char (c : Char)
  | expression
  deriving DecidableEq, Repr

/-- The characters of names; a colon joins a prefix or an axis to a name. -/
def isNamePart (c : Char) : Bool :=
  Xml.isNameChar c || c == ':'

/-- Whether symbols, the last one first, end in a name that a letter would go on with. -/
def endsInName : List Symbol → Bool
  | .char c :: before => isNamePart c && (Xml.isNameStart c || endsInName before)
  | _ => false

/-- What precedes a word, of which the last character comes first. -/
def beforeWord? : (word : List Char) → List Symbol → Option (List Symbol)
  | [], symbols => some symbols
  | w :: word, .char c :: before => if w = c then beforeWord? word before else none
  | _ :: _, _ => none

/-- What precedes a call of `concat`, read backwards from the end of its arguments. -/
def beforeCall? : (afterArgument : Bool) → List Symbol → Option (List Symbol)
  | false, .expression :: before => beforeCall? true before
  | afterArgument, .char c :: before =>
    if Xml.isSpace c then beforeCall? afterArgument before
    else if afterArgument && c == ',' then beforeCall? false before
    else if afterArgument && c == '(' then
      (beforeWord? ['t', 'a', 'c', 'n', 'o', 'c'] before).filter fun rest => !endsInName rest
    else none
  | _, _ => none

/-- The symbols after a closing parenthesis: one mark in place of a call that it finishes. -/
def closed (symbols : List Symbol) : List Symbol :=
  match beforeCall? false symbols with
  | some before => .expression :: before
  | none => .char ')' :: symbols

/-! ## The pass -/

/-- The state of the pass; the symbols and the content of an open literal are held in reverse. -/
inductive Scan where
  | outside (symbols : List Symbol)
  | inside (quote : Char) (content : List Char) (symbols : List Symbol)

namespace Scan

def next : Scan → Char → Scan
  | outside symbols, c =>
    if Template.isQuote c then inside c [] symbols
    else if c = ')' then outside (closed symbols)
    else outside (.char c :: symbols)
  | inside q content symbols, c =>
    if c = q then outside (.expression :: symbols) else inside q (c :: content) symbols

def after (s : Scan) (cs : List Char) : Scan :=
  cs.foldl next s

theorem after_cons (s : Scan) (c : Char) (cs : List Char) :
    s.after (c :: cs) = (s.next c).after cs :=
  rfl

theorem after_append (s : Scan) (a b : List Char) : s.after (a ++ b) = (s.after a).after b :=
  List.foldl_append

def quote? : Scan → Option Char
  | outside _ => none
  | inside q _ _ => some q

/-- What remains at the end: the characters outside of string expressions, and an open literal. -/
def finished : Scan → List Char
  | outside symbols => remaining symbols
  | inside q content symbols => remaining symbols ++ q :: content.reverse
where
  -- The characters among the symbols.
  remaining (symbols : List Symbol) : List Char :=
    symbols.reverse.filterMap fun
      | .char c => some c
      | .expression => none

/-- The pass is in a literal exactly where the text is. -/
theorem quote?_next (s : Scan) (c : Char) : (s.next c).quote? = literalNext s.quote? c := by
  cases s with
  | outside symbols =>
      by_cases hquote : Template.isQuote c = true
      · simp [next, quote?, literalNext, hquote]
      · have hstay : literalNext none c = none := by simp [literalNext, hquote]
        rw [next, if_neg hquote]
        by_cases hparen : c = ')'
        · rw [if_pos hparen]
          exact hstay.symm
        · rw [if_neg hparen]
          exact hstay.symm
  | inside q content symbols =>
      by_cases hc : c = q <;> simp [next, quote?, literalNext, hc]

end Scan

/-- What remains of a text without its string expressions. -/
def erased (cs : List Char) : List Char :=
  ((Scan.outside []).after cs).finished

/-! ## String expressions in the pass -/

/-- The content of a literal is kept up to its closing quote. -/
theorem after_content {q : Char} {cs : List Char} (h : q ∉ cs) (content : List Char)
    (symbols : List Symbol) :
    (Scan.inside q content symbols).after cs = .inside q (cs.reverse ++ content) symbols := by
  induction cs generalizing content with
  | nil => rfl
  | cons c cs ih =>
      have hc : c ≠ q := fun heq => h (heq ▸ List.mem_cons_self)
      have hcs : q ∉ cs := fun hmem => h (List.mem_cons_of_mem c hmem)
      rw [Scan.after_cons, Scan.next, if_neg hc, ih hcs]
      simp

/-- A literal leaves one mark. -/
theorem after_literal (l : Literal) (symbols : List Symbol) :
    (Scan.outside symbols).after l.text = .outside (.expression :: symbols) := by
  have hopen : (Scan.outside symbols).next l.quote = .inside l.quote [] symbols := by
    simp [Scan.next, l.isQuote]
  rw [Literal.text, List.cons_append, Scan.after_cons, hopen, Scan.after_append,
    after_content l.closed]
  simp [Scan.after, Scan.next]

/-- A separator between arguments belongs to the call. -/
theorem beforeCall?_separator (symbols : List Symbol) :
    beforeCall? true (.char ' ' :: .char ',' :: .expression :: symbols) =
      beforeCall? true symbols := by
  simp [beforeCall?, Xml.isSpace]

/-- Arguments leave marks with separators between them, and before these stands what stood there. -/
theorem after_arguments {ls : List Literal} (hls : ls ≠ []) (symbols : List Symbol) :
    ∃ held, (Scan.outside symbols).after ([',', ' '].intercalate (ls.map Literal.text)) =
        .outside (.expression :: held) ∧ beforeCall? true held = beforeCall? true symbols := by
  match ls with
  | [l] => exact ⟨symbols, by simpa using after_literal l symbols, rfl⟩
  | l :: l' :: rest =>
      have hcomma : (Scan.outside (.expression :: symbols)).after [',', ' '] =
          .outside (.char ' ' :: .char ',' :: .expression :: symbols) := by
        simp [Scan.after, Scan.next, Template.isQuote]
      rcases after_arguments (List.cons_ne_nil l' rest)
        (.char ' ' :: .char ',' :: .expression :: symbols) with ⟨held, hafter, hbefore⟩
      refine ⟨held, ?_, ?_⟩
      · rw [List.map_cons, List.map_cons, List.intercalate_cons_cons, Scan.after_append,
          Scan.after_append, after_literal, hcomma, ← List.map_cons, hafter]
      · rw [hbefore, beforeCall?_separator]

/-- A string expression leaves one mark, unless its first letter goes on with a name. -/
theorem after_stringExpression {text value : List Char} (h : StringExpression text value)
    {symbols : List Symbol} (hname : endsInName symbols = false) :
    (Scan.outside symbols).after text = .outside (.expression :: symbols) := by
  cases h with
  | literal l => exact after_literal l symbols
  | concat ls hlen =>
      have hls : ls ≠ [] := by
        rintro rfl
        simp at hlen
      have hopening : (Scan.outside symbols).after concatOpening =
          .outside (concatOpening.reverse.map .char ++ symbols) := by
        simp [Scan.after, Scan.next, concatOpening, Template.isQuote]
      have hcall :
          beforeCall? true (concatOpening.reverse.map .char ++ symbols) = some symbols := by
        simp [beforeCall?, concatOpening, Xml.isSpace, beforeWord?, hname]
      rcases after_arguments hls (concatOpening.reverse.map .char ++ symbols) with
        ⟨held, hafter, hbefore⟩
      -- the closing parenthesis meets the opening of the call, and one mark is left
      have hclosed : closed (.expression :: held) = .expression :: symbols := by
        rw [closed, beforeCall?, hbefore, hcall]
      calc
        (Scan.outside symbols).after (concatText ls)
            = ((Scan.outside (concatOpening.reverse.map .char ++ symbols)).after
                ([',', ' '].intercalate (ls.map Literal.text))).after [')'] := by
              rw [concatText, Scan.after_append, Scan.after_append, hopening]
        _ = (Scan.outside (.expression :: held)).after [')'] := by rw [hafter]
        _ = .outside (closed (.expression :: held)) := rfl
        _ = .outside (.expression :: symbols) := by rw [hclosed]

end XPath
end Gleaner
