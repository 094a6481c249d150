import Gleaner.Query.Grammar
/-!
# Steps of the parser

What each function of the parser does on the lexemes in front of it, how the levels are ranked, and
how the table of functions answers for their names.
-/

namespace Gleaner
namespace Query

/-! ## The table of functions -/

theorem arity_le_one (f : Builtin) : f.arity ≤ 1 := by
  cases f <;> decide

/-- There are no arguments after the first one. -/
theorem eq_nil_of_arity {f : Builtin} {more : List Query} (h : more.length + 1 = f.arity) :
    more = [] := by
  have hle := arity_le_one f
  exact List.length_eq_zero_iff.1 (by omega)

theorem find?_name (f : Builtin) : Builtin.find? f.name f.arity = some f := by
  cases f <;> decide

theorem arity_of_find? {name : String} {arity : Nat} {f : Builtin}
    (h : Builtin.find? name arity = some f) : f.arity = arity := by
  have htest := List.find?_some h
  simp only [Bool.and_eq_true, beq_iff_eq] at htest
  exact htest.2

/-- No function has the name of a constant or of an operator. -/
theorem name_not_reserved (f : Builtin) :
    isConstantName f.name = false ∧ ¬ (f.name = "and" ∨ f.name = "or") ∧ f.name ≠ "not" := by
  cases f <;> decide

/-- A function is built by its name and as many arguments as it takes. -/
theorem buildCall_function {f : Builtin} (hf : f.arity = 1) (argument : Query) :
    buildCall f.name [argument] = .ok (.call f [argument]) := by
  have hfind := find?_name f
  rw [hf] at hfind
  simp only [buildCall, if_neg (name_not_reserved f).2.2, hfind]

/-! ## Levels -/

namespace Level

/-- The strength that a level demands of its operands. -/
def rank : Level → Nat
  | .pipe => 0
  | .comma => 1
  | .alternative => 2
  | .or => 3
  | .and => 4
  | .comparison => 5
  | .additive => 6
  | .multiplicative => 7
  | .unary => 8

theorem rank_le (level : Level) : level.rank ≤ 8 := by
  cases level <;> decide

theorem rank_next {level : Level} (h : level ≠ .unary) : level.next.rank = level.rank + 1 := by
  cases level with
  | unary => exact absurd rfl h
  | _ => rfl

end Level

/-- Every level but the last reads the next one and then its operators. -/
theorem parseLevel_next {level : Level} (h : level ≠ .unary) (stop fuel : Nat) (ls : List Lexeme) :
    parseLevel stop (fuel + 1) level ls =
      parseLevel stop fuel level.next ls >>= fun found =>
        parseRest stop fuel level found.1 found.2 := by
  cases level with
  | unary => exact absurd rfl h
  | _ => rfl

theorem parseLevel_neg (stop fuel offset : Nat) (rest : List Lexeme) :
    parseLevel stop (fuel + 1) .unary (⟨.operator .sub, offset⟩ :: rest) =
      parseLevel stop fuel .unary rest >>= fun found => .ok (.neg found.1, found.2) := rfl

/-! ## Targets -/

theorem parsePostfix_succ (stop fuel : Nat) (ls : List Lexeme) :
    parsePostfix stop (fuel + 1) ls =
      parsePrimary stop fuel ls >>= fun found => parseSuffixes stop fuel found.1 found.2 := rfl

theorem parseSuffixes_leftBracket (stop fuel offset : Nat) (target : Query)
    (rest : List Lexeme) :
    parseSuffixes stop (fuel + 1) target (⟨.leftBracket, offset⟩ :: rest) =
      parseBracket stop fuel target rest >>= fun found =>
        parseSuffixes stop fuel found.1 found.2 := rfl

theorem parsePrimary_leftParen (stop fuel offset : Nat) (rest : List Lexeme) :
    parsePrimary stop (fuel + 1) (⟨.leftParen, offset⟩ :: rest) =
      parseLevel stop fuel .pipe rest >>= fun found =>
        expect stop .rightParen found.2 >>= fun after => .ok (found.1, after) := rfl

theorem parsePrimary_num (stop fuel offset : Nat) (value : Binary64) (rest : List Lexeme) :
    parsePrimary stop (fuel + 1) (⟨.num value, offset⟩ :: rest) =
      match Number.ofBinary? value with
      | some n => .ok (.literal (.number n), rest)
      | none => .error (.misplaced offset .numberOutOfRange) := rfl

/-! ## Names -/

/-- Lexemes that belong neither to a member's selection nor to a call. -/
def Detached (rest : List Lexeme) : Prop :=
  ∀ l ∈ rest.head?, (∀ text, l.token ≠ .str text) ∧ l.token ≠ .leftParen

theorem parsePrimary_ident (stop fuel offset : Nat) (name : String) (rest : List Lexeme) :
    parsePrimary stop (fuel + 1) (⟨.ident name, offset⟩ :: rest) =
      parseName stop fuel name offset rest := rfl

theorem parseName_constant {name : String} (hname : isConstantName name = true)
    (stop fuel offset : Nat) (rest : List Lexeme) :
    parseName stop (fuel + 1) name offset rest = .ok (buildName name, rest) := by
  rw [parseName.eq_def]
  exact if_pos hname

/-- A name without arguments that is no word of the language stands for itself. -/
theorem parseName_plain {name : String} (hconstant : isConstantName name = false)
    (hword : ¬ (name = "and" ∨ name = "or")) {rest : List Lexeme} (hrest : Detached rest)
    (stop fuel offset : Nat) :
    parseName stop (fuel + 1) name offset rest = .ok (buildName name, rest) := by
  rw [parseName.eq_def]
  simp only [hconstant, Bool.false_eq_true, if_false, if_neg hword]
  split
  · exact absurd rfl (hrest _ rfl).2
  · rfl

theorem parseName_called {name : String} (hconstant : isConstantName name = false)
    (hword : ¬ (name = "and" ∨ name = "or")) (stop fuel offset offset' : Nat)
    (inside : List Lexeme) :
    parseName stop (fuel + 1) name offset (⟨.leftParen, offset'⟩ :: inside) =
      parseArguments stop fuel inside >>= fun found =>
        buildCall name found.1 >>= fun q => .ok (q, found.2) := by
  rw [parseName.eq_def]
  simp only [hconstant, Bool.false_eq_true, if_false, if_neg hword]

end Query
end Gleaner
