import Gleaner.Proofs.Text.Ends
import Gleaner.Proofs.XPath.StringExpression
import Gleaner.XPath.Evaluation
/-!
# The value of a written text

The expression that is written for a text is read back by the grammar of paths, and evaluates to the
text wherever it stands.

* `tailText` and `tailTokens` are what follows the first argument of a concatenation, as text and as
  tokens; `tokensWith_tail` relates them by induction on the further arguments;
* `parseLevel_of_path`: an operand with nothing behind it passes through all levels of operators;
* `Denotes source value`: the source is a path that evaluates to the value at every node;
* `literalText_denotes`: what is written for a text is a string expression, and denotes the text.
-/

namespace Gleaner
namespace XPath

variable {l : Literal} {ls : List Literal} {cs after : List Char} {ts rest : List Token}
  {afterOperand : Bool} {fuel : Nat}

/-! ## Tokens -/

def Literal.value (l : Literal) : String :=
  String.ofList l.content

/-- A quoted literal is one token, wherever it stands. -/
theorem scan?_literal (l : Literal) (afterOperand : Bool) (after : List Char) :
    scan? afterOperand (l.text ++ after) = .ok ([.literal l.value], after) := by
  have hcut := Text.cutAt?_char l.closed after
  have htext : l.text ++ after = l.quote :: (l.content ++ l.quote :: after) := by
    simp [Literal.text]
  rw [htext]
  rcases Template.isQuote_iff.1 l.isQuote with hq | hq
  · rw [hq] at hcut ⊢
    simp only [scan?, List.take_succ_cons, List.take_zero, hcut]
    rfl
  · rw [hq] at hcut ⊢
    simp only [scan?, List.take_succ_cons, List.take_zero, hcut]
    rfl

def concatName : Xml.Spelled :=
  ⟨none, "concat"⟩

theorem scan?_concat (after : List Char) :
    scan? false (concatOpening ++ after) = .ok ([.function concatName], '(' :: after) := by
  rfl

theorem scan?_comma (after : List Char) :
    scan? true (',' :: after) = .ok ([.comma], after) := by
  rfl

theorem scan?_leftParen (after : List Char) :
    scan? true ('(' :: after) = .ok ([.leftParen], after) := by
  rfl

theorem scan?_rightParen (after : List Char) :
    scan? true (')' :: after) = .ok ([.rightParen], after) := by
  rfl

/-- One token at the front, whose kind decides how the next one is read. -/
theorem tokensWith_of_scan {t : Token} {c : Char} (hc : Xml.isSpace c = false)
    (hscan : scan? afterOperand (c :: cs) = .ok ([t], after))
    (hmore : tokensWith fuel (!t.precedesOperand) after = .ok ts) :
    tokensWith (fuel + 1) afterOperand (c :: cs) = .ok (t :: ts) := by
  have hskip : Xml.skipSpace (c :: cs) = c :: cs := by
    simp [Xml.skipSpace, hc]
  simp only [tokensWith, hskip, hscan, bind, Except.bind]
  simp [hmore]

theorem tokensWith_space (fuel : Nat) (afterOperand : Bool) (cs : List Char) :
    tokensWith fuel afterOperand (' ' :: cs) = tokensWith fuel afterOperand cs := by
  have hskip : Xml.skipSpace (' ' :: cs) = Xml.skipSpace cs := rfl
  cases fuel with
  | zero => rw [tokensWith, tokensWith, hskip]
  | succ fuel => rw [tokensWith, tokensWith, hskip]

/-- A literal is lexed as one token before the others. -/
theorem tokensWith_literal (l : Literal) (hmore : tokensWith fuel true after = .ok ts) :
    tokensWith (fuel + 1) afterOperand (l.text ++ after) = .ok (.literal l.value :: ts) := by
  have hquote : Xml.isSpace l.quote = false := by
    rcases Template.isQuote_iff.1 l.isQuote with hq | hq <;> rw [hq] <;> decide
  exact tokensWith_of_scan hquote (scan?_literal l afterOperand after) hmore

/-! ## The text and the tokens of a concatenation -/

def tailText : List Literal → List Char
  | [] => [')']
  | l :: ls => ',' :: ' ' :: (l.text ++ tailText ls)

def tailTokens : List Literal → List Token
  | [] => [.rightParen]
  | l :: ls => .comma :: .literal l.value :: tailTokens ls

/-- The text of a concatenation: its opening, the first literal, and the others behind commas. -/
theorem concatText_cons (l : Literal) (ls : List Literal) :
    concatText (l :: ls) = concatOpening ++ (l.text ++ tailText ls) := by
  have htail : ∀ (l : Literal) (ls : List Literal),
      [',', ' '].intercalate ((l :: ls).map Literal.text) ++ [')'] = l.text ++ tailText ls := by
    intro l ls
    induction ls generalizing l with
    | nil => simp [tailText]
    | cons l' ls ih =>
        rw [List.map_cons, List.map_cons, List.intercalate_cons_cons, ← List.map_cons,
          List.append_assoc, ih]
        simp [tailText]
  rw [concatText, List.append_assoc, htail]

theorem length_tailTokens : (tailTokens ls).length = 2 * ls.length + 1 := by
  induction ls with
  | nil => rfl
  | cons l ls ih => simp [tailTokens, ih]; omega

theorem length_tailText (ls : List Literal) : 2 * ls.length + 1 ≤ (tailText ls).length := by
  induction ls with
  | nil => simp [tailText]
  | cons l ls ih => simp [tailText]; omega

/-- The arguments behind the first one are lexed up to the closing parenthesis. -/
theorem tokensWith_tail (h : 2 * ls.length + 1 ≤ fuel) :
    tokensWith fuel true (tailText ls) = .ok (tailTokens ls) := by
  induction ls generalizing fuel with
  | nil =>
      rcases Nat.exists_eq_add_of_le' h with ⟨fuel, rfl⟩
      refine tokensWith_of_scan (by decide) (scan?_rightParen []) ?_
      cases fuel <;> rfl
  | cons l ls ih =>
      -- one unit of fuel for the comma, one for the literal; the space takes none
      have hfuel : ∃ k, fuel = k + 2 ∧ 2 * ls.length + 1 ≤ k :=
        ⟨fuel - 2, by simp at h; omega, by simp at h; omega⟩
      rcases hfuel with ⟨k, rfl, hk⟩
      refine tokensWith_of_scan (by decide) (scan?_comma _) ?_
      rw [tokensWith_space]
      exact tokensWith_literal l (ih hk)

/-- A literal by itself is one token. -/
theorem tokens_literal (l : Literal) : tokens l.text = .ok [.literal l.value] := by
  have hlen : l.text.length = l.content.length + 1 + 1 := by
    simp [Literal.text]
  have hread : tokensWith (l.content.length + 1 + 1) false (l.text ++ []) =
      .ok [.literal l.value] := tokensWith_literal l rfl
  rw [tokens, hlen]
  simpa using hread

/-- The tokens of a concatenation of literals. -/
theorem tokens_concat (l : Literal) (ls : List Literal) :
    tokens (concatText (l :: ls)) =
      .ok (.function concatName :: .leftParen :: .literal l.value :: tailTokens ls) := by
  have hlen := length_tailText ls
  -- the fuel is the number of characters, and no token is empty
  have hfuel : ∃ k, (concatText (l :: ls)).length = k + 3 ∧ 2 * ls.length + 1 ≤ k := by
    rw [concatText_cons]
    refine ⟨(concatOpening ++ (l.text ++ tailText ls)).length - 3, ?_, ?_⟩
    · simp [concatOpening]
    · simp [concatOpening]
      omega
  rcases hfuel with ⟨k, hk, hle⟩
  rw [tokens, hk, concatText_cons]
  refine tokensWith_of_scan (by decide) (scan?_concat _) ?_
  refine tokensWith_of_scan (by decide) (scan?_leftParen _) ?_
  exact tokensWith_literal l (tokensWith_tail hle)

/-! ## Operands without operators -/

/-- Tokens that end an operand: a comma, a closing parenthesis, or none at all. -/
def EndsOperand (rest : List Token) : Prop :=
  ∀ t ∈ rest.head?, t = .comma ∨ t = .rightParen

theorem endsOperand_nil : EndsOperand [] := by
  simp [EndsOperand]

theorem endsOperand_tailTokens (ls : List Literal) : EndsOperand (tailTokens ls) := by
  cases ls with
  | nil => simp [EndsOperand, tailTokens]
  | cons l ls => simp [EndsOperand, tailTokens]

/-- No operator follows where an operand ends. -/
theorem operator?_of_endsOperand (h : EndsOperand rest) (level : Level) :
    level.operator? rest = none := by
  cases rest with
  | nil => rfl
  | cons t rest => rcases h t rfl with rfl | rfl <;> rfl

theorem parseRest_of_endsOperand (h : EndsOperand rest) (fuel : Nat) (level : Level) (e : XPath) :
    parseRest (fuel + 1) level e rest = .ok (e, rest) := by
  rw [parseRest, operator?_of_endsOperand h]

/-- No predicate follows where an operand ends. -/
theorem parsePredicates_of_endsOperand (h : EndsOperand rest) (fuel : Nat) :
    parsePredicates (fuel + 1) rest = .ok ([], rest) := by
  cases rest with
  | nil => rfl
  | cons t rest => rcases h t rfl with rfl | rfl <;> rfl

/-- A level whose operators do not follow reads what the next level reads. -/
theorem parseLevel_of_next {level : Level} {e : XPath} (hrest : EndsOperand rest)
    (hunion : level ≠ .union) (hnegation : level ≠ .negation)
    (h : parseLevel (fuel + 1) level.next ts = .ok (some e, rest)) :
    parseLevel (fuel + 2) level ts = .ok (some e, rest) := by
  cases level with
  | union => exact absurd rfl hunion
  | negation => exact absurd rfl hnegation
  | _ =>
      rw [parseLevel, h]
      · simp [bind, Except.bind, parseRest_of_endsOperand hrest]
      all_goals nofun

/-- An operand that a path reads passes through the levels of operators. -/
theorem parseLevel_of_path {e : XPath} (hrest : EndsOperand rest)
    (h : parsePath (fuel + 1) ts = .ok (some e, rest)) :
    parseLevel (fuel + 9) .or ts = .ok (some e, rest) := by
  have hunion : parseLevel (fuel + 2) .union ts = .ok (some e, rest) := by
    simp [parseLevel, h, bind, Except.bind, parseRest_of_endsOperand hrest]
  have hnegation : parseLevel (fuel + 3) .negation ts = .ok (some e, rest) := by
    rw [parseLevel, hunion]
    rfl
  have hproduct : parseLevel (fuel + 4) .product ts = .ok (some e, rest) :=
    parseLevel_of_next hrest (by decide) (by decide) hnegation
  have hsum : parseLevel (fuel + 5) .sum ts = .ok (some e, rest) :=
    parseLevel_of_next hrest (by decide) (by decide) hproduct
  have hrelation : parseLevel (fuel + 6) .relation ts = .ok (some e, rest) :=
    parseLevel_of_next hrest (by decide) (by decide) hsum
  have hequality : parseLevel (fuel + 7) .equality ts = .ok (some e, rest) :=
    parseLevel_of_next hrest (by decide) (by decide) hrelation
  have hand : parseLevel (fuel + 8) .and ts = .ok (some e, rest) :=
    parseLevel_of_next hrest (by decide) (by decide) hequality
  exact parseLevel_of_next hrest (by decide) (by decide) hand

/-- A literal is a path by itself where an operand ends. -/
theorem parsePath_literal (s : String) (hrest : EndsOperand rest) (fuel : Nat) :
    parsePath (fuel + 2) (.literal s :: rest) = .ok (some (.literal s), rest) := by
  -- a literal begins no step, and neither a predicate nor a slash stands behind it
  have hsteps : parseSteps (fuel + 1) .here (.literal s :: rest) =
      .ok (none, .literal s :: rest) := rfl
  have hprimary : parsePrimary (fuel + 1) (.literal s :: rest) =
      .ok (some (.literal s), rest) := rfl
  have hpredicates := parsePredicates_of_endsOperand hrest fuel
  simp only [parsePath, hsteps, hprimary, hpredicates, bind, Except.bind, List.foldl_nil]
  cases rest with
  | nil => rfl
  | cons t rest => rcases hrest t rfl with rfl | rfl <;> rfl

theorem parseLevel_literal (s : String) (hrest : EndsOperand rest) (fuel : Nat) :
    parseLevel (fuel + 10) .or (.literal s :: rest) = .ok (some (.literal s), rest) :=
  parseLevel_of_path hrest (parsePath_literal s hrest fuel)

/-! ## Reading the expression -/

def Literal.expression (l : Literal) : XPath :=
  .literal l.value

/-- The arguments behind the first one are read in order. -/
theorem parseArguments_tail (h : ls.length + 11 ≤ fuel) :
    parseArguments fuel false (tailTokens ls) = .ok (ls.map Literal.expression, []) := by
  induction ls generalizing fuel with
  | nil =>
      rcases Nat.exists_eq_add_of_le' h with ⟨k, rfl⟩
      rfl
  | cons l ls ih =>
      -- ten units reach a literal through the levels, and the rest needs one unit less
      have hfuel : ∃ k, fuel = k + 11 ∧ ls.length + 1 ≤ k :=
        ⟨fuel - 11, by simp at h; omega, by simp at h; omega⟩
      rcases hfuel with ⟨k, rfl, hk⟩
      have hfirst := parseLevel_literal l.value (endsOperand_tailTokens ls) k
      have hmore : parseArguments (k + 10) false (tailTokens ls) =
          .ok (ls.map Literal.expression, []) := ih (by omega)
      rw [tailTokens, parseArguments]
      · simp only [Bool.false_eq_true, if_false, expect, if_true, bind, Except.bind, hfirst, hmore]
        rfl
      · nofun

/-- Literals with commas between them are read as arguments. -/
theorem parseArguments_literals (l : Literal) (h : ls.length + 11 ≤ fuel) :
    parseArguments (fuel + 1) true (.literal l.value :: tailTokens ls) =
      .ok ((l :: ls).map Literal.expression, []) := by
  have hfuel : ∃ k, fuel = k + 10 := ⟨fuel - 10, by omega⟩
  rcases hfuel with ⟨k, rfl⟩
  have hfirst := parseLevel_literal l.value (endsOperand_tailTokens ls) k
  have hmore := parseArguments_tail h
  rw [parseArguments]
  · simp only [if_true, bind, Except.bind, hfirst, hmore]
    rfl
  · nofun

/-- The call is a path by itself. -/
theorem parsePath_concat (l : Literal) (h : ls.length + 11 ≤ fuel) :
    parsePath (fuel + 3) (.function concatName :: .leftParen :: .literal l.value :: tailTokens ls) =
      .ok (some (.call concatName ((l :: ls).map Literal.expression)), []) := by
  have hsteps : parseSteps (fuel + 2) .here
      (.function concatName :: .leftParen :: .literal l.value :: tailTokens ls) =
      .ok (none, .function concatName :: .leftParen :: .literal l.value :: tailTokens ls) := rfl
  have harguments := parseArguments_literals l h
  have hprimary : parsePrimary (fuel + 2)
      (.function concatName :: .leftParen :: .literal l.value :: tailTokens ls) =
      .ok (some (.call concatName ((l :: ls).map Literal.expression)), []) := by
    simp [parsePrimary, expect, bind, Except.bind, harguments]
  simp [parsePath, hsteps, hprimary, parsePredicates, bind, Except.bind]

theorem ofTokens_literal (l : Literal) : ofTokens [.literal l.value] = .ok l.expression := by
  have hread := parseLevel_literal l.value endsOperand_nil 22
  simp [ofTokens, nestingBound, hread, bind, Except.bind, Literal.expression]

/-- The tokens of a concatenation are read as the call. -/
theorem ofTokens_concat (l : Literal) (ls : List Literal) :
    ofTokens (.function concatName :: .leftParen :: .literal l.value :: tailTokens ls) =
      .ok (.call concatName ((l :: ls).map Literal.expression)) := by
  -- each token counts sixteen times, which is more than a literal needs
  have hfuel : ∃ k, nestingBound
      (.function concatName :: .leftParen :: .literal l.value :: tailTokens ls) = k + 11 ∧
      ls.length + 11 ≤ k := by
    refine ⟨32 * ls.length + 69, ?_, by omega⟩
    simp [nestingBound, length_tailTokens]
    omega
  rcases hfuel with ⟨k, hk, hle⟩
  have hread := parseLevel_of_path endsOperand_nil (parsePath_concat l hle)
  simp [ofTokens, hk, hread, bind, Except.bind]

/-! ## The value -/

/-- The source is a path whose value is the text, at every node of every document. -/
def Denotes (source value : String) : Prop :=
  ∃ selection, Selection.read source = .ok selection ∧
    ∀ d n, selection.value d n = .ok (.text value)

/-- Literals are evaluated to their texts, in order. -/
theorem evalAll_literals (at_ : Context) (ls : List Literal) :
    evalAll at_ (ls.map Literal.expression) = .ok (ls.map fun l => .text l.value) := by
  induction ls with
  | nil => simp [evalAll]
  | cons l ls ih => simp [evalAll, eval, ih, Literal.expression, bind, Except.bind]

theorem join_values (ls : List Literal) :
    String.join (ls.map Literal.value) = String.ofList (ls.flatMap Literal.content) := by
  induction ls with
  | nil => rfl
  | cons l ls ih => simp [String.join_cons, ih, Literal.value]

/-- The call gives the contents of the literals in a row. -/
theorem eval_concat (at_ : Context) (h : 2 ≤ ls.length) :
    eval at_ (.call concatName (ls.map Literal.expression)) =
      .ok (.text (String.ofList (ls.flatMap Literal.content))) := by
  -- the function takes two arguments or more, and every argument is a text already
  have hfind : Function.find? concatName = some (.concat, 2, none) := by decide
  have hcount : Function.checkCount 2 none ls.length = .ok () := by
    simp [Function.checkCount, Nat.not_lt.2 h]
  have htexts : (ls.map fun l => Value.text l.value).map (Value.asText at_.document) =
      ls.map Literal.value := by
    simp [Value.asText, Function.comp_def]
  simp [eval, hfind, evalAll_literals, hcount, Function.apply, bind, Except.bind, htexts,
    join_values]

/-- What is read from the tokens of a text is what the text selects. -/
theorem selection_of_tokens {text : List Char} {e : XPath} (htokens : tokens text = .ok ts)
    (htree : ofTokens ts = .ok e) :
    Selection.read (String.ofList text) = .ok ⟨String.ofList text, e⟩ := by
  have hread : (tokens text >>= ofTokens) = .ok e := by
    rw [htokens]
    exact htree
  rw [Selection.read, XPath.read, String.toList_ofList, hread]
  rfl

/-- A string expression is read as a path, and its value is the text that it stands for. -/
theorem denotes_of_stringExpression {text value : List Char} (h : StringExpression text value) :
    Denotes (String.ofList text) (String.ofList value) := by
  cases h with
  | literal l =>
      refine ⟨_, selection_of_tokens (tokens_literal l) (ofTokens_literal l), fun d n => ?_⟩
      rw [Selection.value, Literal.expression, eval]
      rfl
  | concat ls hlen =>
      cases ls with
      | nil => simp at hlen
      | cons l ls =>
          refine ⟨_, selection_of_tokens (tokens_concat l ls) (ofTokens_concat l ls),
            fun d n => ?_⟩
          rw [Selection.value, eval_concat _ hlen]
          rfl

/--
What is written for a text is one literal without its own quote in it, or the concatenation of two
or more of these, with the text as its value. The grammar of paths reads it, and at every node of
every document it evaluates to the text.
-/
theorem literalText_denotes (s : String) :
    StringExpression (literalText s).toList s.toList ∧ Denotes (literalText s) s := by
  have hexpression := stringExpression_literalChars s.toList
  refine ⟨by simpa [literalText] using hexpression, ?_⟩
  have hdenotes := denotes_of_stringExpression hexpression
  rwa [String.ofList_toList] at hdenotes

example : literalText "say \"it's\"" = "concat('say \"it', \"'\", 's\"')" := by decide

end XPath
end Gleaner
