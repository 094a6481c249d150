import Gleaner.Proofs.Template.PathGaps
import Gleaner.Proofs.Template.QueryGaps
/-!
# Strings as syntax

A value should never be read as more than a value: whatever string a variable has, the syntax of the
filled template should be the same. The decision about quotes looks at one character on each side
of a hole, so this holds for some templates and fails for others.

* `SameTokens`, `SamePath` compare the syntax of two queries, of two paths;
* `KeepsSyntax` is the law for one template and one variable;
* `keepsSyntax_iff`: in a query it holds exactly when no gap is exposed or the query cannot be lexed
  anyway, in a path exactly when no gap stands in a literal or directly after a name;
* `not_keepsSyntax_after_text`: it fails for a hole after other text in a literal.
-/

namespace Gleaner
namespace Template

open Query (Lexeme lex tokens?)
open XPath (erased)

/-! ## The law -/

/-- Both queries cannot be lexed, or their tokens differ only in the contents of strings. -/
def SameTokens (t₁ t₂ : String) : Prop :=
  match lex t₁.toList, lex t₂.toList with
  | .ok ls₁, .ok ls₂ =>
    ls₁.map (fun l => tokenShape l.token) = ls₂.map fun l => tokenShape l.token
  | .error _, .error _ => True
  | _, _ => False

/-- The paths are the same once every string expression is erased. -/
def SamePath (t₁ t₂ : String) : Prop :=
  erased t₁.toList = erased t₂.toList

/-- Any two strings as values of a variable give texts with the same syntax. -/
def KeepsSyntax (same : String → String → Prop) (dialect : Dialect) (b : Bindings)
    (name e : String) : Prop :=
  ∀ s₁ s₂ : String, ∃ t₁ t₂,
    fill dialect (b.assign name s₁) e = .ok t₁ ∧ fill dialect (b.assign name s₂) e = .ok t₂ ∧
      same t₁ t₂

/-- Two texts have the same tokens, but for the contents of strings, if they have the same shape. -/
theorem sameTokens_iff (t₁ t₂ : String) :
    SameTokens t₁ t₂ ↔ shape? t₁.toList = shape? t₂.toList := by
  unfold SameTokens shape? tokens?
  cases lex t₁.toList with
  | error e₁ => cases lex t₂.toList <;> simp [Except.toOption]
  | ok ls₁ => cases lex t₂.toList <;> simp [Except.toOption, Function.comp_def]

theorem shape?_eq_none_iff (cs : List Char) : shape? cs = none ↔ ∃ e, lex cs = .error e := by
  rw [shape?, Option.map_eq_none_iff, Query.tokens?_eq_none_iff]

/-! ## From templates to forms -/

/-- Where filling a template fills a form, the law for the template is the law for the form. -/
theorem keepsSyntax_of_form {same : String → String → Prop} {dialect : Dialect} {b : Bindings}
    {name e : String} {form : Form} {written : List Char → List Char}
    (hfill : ∀ s : String, fill dialect (b.assign name s) e =
      .ok (String.ofList (form.fill (written s.toList)))) :
    KeepsSyntax same dialect b name e ↔
      ∀ s₁ s₂ : List Char, same (String.ofList (form.fill (written s₁)))
        (String.ofList (form.fill (written s₂))) := by
  constructor
  · -- each list of characters is a string
    intro hlaw s₁ s₂
    rcases hlaw (String.ofList s₁) (String.ofList s₂) with ⟨t₁, t₂, h₁, h₂, hsame⟩
    rw [hfill, String.toList_ofList] at h₁ h₂
    cases h₁
    cases h₂
    exact hsame
  · intro hlaw s₁ s₂
    exact ⟨_, _, hfill s₁, hfill s₂, hlaw s₁.toList s₂.toList⟩

section

variable {b : Bindings} {name e : String} {form : Form}

theorem fill_json_assign (htype : b.type? name = none)
    (hform : queryForm b name none (pieces e.toList) = .ok form) (s : String) :
    fill .json (b.assign name s) e =
      .ok (String.ofList (form.fill (Json.escaped s.toList))) := by
  rw [fill, fillQuery_assign htype, hform]
  rfl

theorem fill_xml_assign (htype : b.type? name = none)
    (hform : pathForm b name (pieces e.toList) = .ok form) (s : String) :
    fill .xml (b.assign name s) e =
      .ok (String.ofList (form.fill (XPath.literalChars s.toList))) := by
  rw [fill, fillPath_assign htype, hform]
  rfl

/-- The syntax is kept exactly if the text is not lexed at all or no gap is exposed. -/
theorem keepsSyntax_json_iff (htype : b.type? name = none)
    (hform : queryForm b name none (pieces e.toList) = .ok form) :
    KeepsSyntax SameTokens .json b name e ↔
      (∃ err, lex (form.fill []) = .error err) ∨ exposedGaps .code form = 0 := by
  rw [keepsSyntax_of_form (fill_json_assign htype hform), ← shape?_eq_none_iff,
    ← sameShape_iff (enclosed_queryForm hform)]
  simp only [sameTokens_iff, String.toList_ofList]

theorem keepsSyntax_xml_iff (htype : b.type? name = none)
    (hform : pathForm b name (pieces e.toList) = .ok form) :
    KeepsSyntax SamePath .xml b name e ↔ Sheltered none false form := by
  rw [keepsSyntax_of_form (fill_xml_assign htype hform), ← sameErasure_iff form]
  simp only [SamePath, String.toList_ofList]

end

/-! ## The exact conditions -/

/--
Where a variable has no declared type and all others have values, a template has the form of a query
and the form of a path. As a query it keeps its syntax under every string exactly when it cannot be
lexed even with the empty string, or no gap is exposed; as a path, exactly when every gap is
sheltered.
-/
theorem keepsSyntax_iff (b : Bindings) (name e : String) (htype : b.type? name = none)
    (hsupplied : ∀ other, .hole other ∈ pieces e.toList → other ≠ name →
      ∃ v, b.value other = .ok v) :
    ∃ query path, queryForm b name none (pieces e.toList) = .ok query ∧
      pathForm b name (pieces e.toList) = .ok path ∧
      (KeepsSyntax SameTokens .json b name e ↔
        (∃ err, lex (query.fill []) = .error err) ∨ exposedGaps .code query = 0) ∧
      (KeepsSyntax SamePath .xml b name e ↔ Sheltered none false path) := by
  rcases exists_queryForm hsupplied none with ⟨query, hquery⟩
  rcases exists_pathForm hsupplied with ⟨path, hpath⟩
  exact ⟨query, path, hquery, hpath, keepsSyntax_json_iff htype hquery,
    keepsSyntax_xml_iff htype hpath⟩

/-- A comparison with the variable inside and outside of quotes, and with another variable. -/
def threeHoles : String :=
  "a == \"\x7b\x7bv\x7d\x7d\" and b == \x7b\x7bv\x7d\x7d and c == \x7b\x7bw\x7d\x7d"

def otherValue : Bindings where
  values := [("w", .bool true)]
  types := []

/-- Every other hole of the expression has a value. -/
theorem otherValue_supplied : ∀ other, .hole other ∈ pieces threeHoles.toList → other ≠ "v" →
    ∃ v, otherValue.value other = .ok v := by
  have hholes : ∀ p ∈ pieces threeHoles.toList,
      p = .hole "v" ∨ p = .hole "w" ∨ p.source.length = 1 := by decide +kernel
  intro other hmem hother
  rcases hholes _ hmem with hv | hw | hlen
  · cases hv
    exact absurd rfl hother
  · cases hw
    exact ⟨_, Bindings.value_eq_convert rfl⟩
  · simp [Piece.source] at hlen

theorem keepsSyntax_iff_of_threeHoles :
    otherValue.type? "v" = none ∧
      (∀ other, .hole other ∈ pieces threeHoles.toList → other ≠ "v" →
        ∃ v, otherValue.value other = .ok v) ∧
      ∃ query path, queryForm otherValue "v" none (pieces threeHoles.toList) = .ok query ∧
        pathForm otherValue "v" (pieces threeHoles.toList) = .ok path ∧
        (KeepsSyntax SameTokens .json otherValue "v" threeHoles ↔
          (∃ err, lex (query.fill []) = .error err) ∨ exposedGaps .code query = 0) ∧
        (KeepsSyntax SamePath .xml otherValue "v" threeHoles ↔ Sheltered none false path) :=
  ⟨rfl, otherValue_supplied, keepsSyntax_iff otherValue "v" threeHoles rfl otherValue_supplied⟩

/-- A hole after other text in a literal gets quotes of its own, which close that literal. -/
theorem not_keepsSyntax_after_text :
    ¬ KeepsSyntax SameTokens .json ⟨[], []⟩ "v" "\"hi \x7b\x7bv\x7d\x7d\"" ∧
      ¬ KeepsSyntax SamePath .xml ⟨[], []⟩ "v" "'hi \x7b\x7bv\x7d\x7d'" := by
  have hjson : ∀ s ∈ ["", ","], (fill .json (Bindings.assign ⟨[], []⟩ "v" s)
      "\"hi \x7b\x7bv\x7d\x7d\"").toOption = some ("\"hi \"" ++ s ++ "\"\"") := by decide +kernel
  have hxml : ∀ s ∈ ["", "'x'"], (fill .xml (Bindings.assign ⟨[], []⟩ "v" s)
      "'hi \x7b\x7bv\x7d\x7d'").toOption = some ("'hi \"" ++ s ++ "\"'") := by decide +kernel
  constructor
  · -- the comma of the second value is a token
    intro hlaw
    rcases hlaw "" "," with ⟨t₁, t₂, h₁, h₂, hsame⟩
    have ht₁ := hjson "" (by decide)
    have ht₂ := hjson "," (by decide)
    rw [h₁] at ht₁
    rw [h₂] at ht₂
    rw [Option.some.inj ht₁, Option.some.inj ht₂, sameTokens_iff] at hsame
    exact absurd hsame (by decide +kernel)
  · -- the apostrophes of the second value end the literal around it
    intro hlaw
    rcases hlaw "" "'x'" with ⟨t₁, t₂, h₁, h₂, hsame⟩
    have ht₁ := hxml "" (by decide)
    have ht₂ := hxml "'x'" (by decide)
    rw [h₁] at ht₁
    rw [h₂] at ht₂
    rw [Option.some.inj ht₁, Option.some.inj ht₂, SamePath] at hsame
    exact absurd hsame (by decide +kernel)

end Template
end Gleaner
