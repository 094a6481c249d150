import Gleaner.Proofs.Template.QuerySubstitution
/-!
# Templates as functions of one variable

With the values of all other variables given, a template is a text with gaps for the value of one
variable, and filling the template with a string fills the gaps with a text made from the string.

* `Form` is a text with gaps, `Form.fill` fills them;
* `queryForm` and `pathForm` are the forms of templates of the two languages;
* `fillQuery_assign`, `fillPath_assign`: filling a template is filling its form.
-/

namespace Gleaner
namespace Template

/-! ## Texts with gaps -/

/-- A text with gaps; a gap is the absence of a character. -/
abbrev Form :=
  List (Option Char)

namespace Form

/-- The text with the same characters in each gap. -/
def fill (value : List Char) (form : Form) : List Char :=
  form.flatMap fun
    | some c => [c]
    | none => value

theorem fill_nil (value : List Char) : fill value [] = [] :=
  rfl

theorem fill_append (value : List Char) (a b : Form) :
    fill value (a ++ b) = fill value a ++ fill value b :=
  List.flatMap_append

theorem fill_char (value : List Char) (c : Char) (form : Form) :
    fill value (some c :: form) = c :: fill value form :=
  rfl

theorem fill_gap (value : List Char) (form : Form) :
    fill value (none :: form) = value ++ fill value form :=
  rfl

/-- A text without gaps stays as it is. -/
theorem fill_map_some (value cs : List Char) : fill value (cs.map some) = cs := by
  induction cs with
  | nil => rfl
  | cons c cs ih => rw [List.map_cons, fill_char, ih]

end Form

/-! ## Assigning a string -/

/-- The bindings with a string as the value of a variable. -/
def Bindings.assign (b : Bindings) (name s : String) : Bindings where
  values := Members.insert name (.string s) b.values
  types := b.types

/-- A variable without a declared type has the string itself as its value. -/
theorem Bindings.value_assign_self {b : Bindings} {name : String} (htype : b.type? name = none)
    (s : String) : (b.assign name s).value name = .ok (.string s) := by
  have hdeclared : (b.assign name s).type? name = none := htype
  have hget : Members.get? name (b.assign name s).values = some (.string s) :=
    Members.get?_insert_self name _ _
  rw [Bindings.value_eq_convert hget, hdeclared]
  rfl

/-- Assigning a variable leaves the others as they are. -/
theorem Bindings.value_assign_of_ne {b : Bindings} {name other : String} (h : other ≠ name)
    (s : String) : (b.assign name s).value other = b.value other := by
  have hdeclared : (b.assign name s).type? other = b.type? other := rfl
  have hget : Members.get? other (b.assign name s).values = Members.get? other b.values :=
    Members.get?_insert_of_ne h _ _
  rw [Bindings.value, hget, hdeclared, Bindings.value]

/-! ## Forms of queries -/

/-- The form of a hole in a query: a gap for the target, with quotes unless it stands in quotes. -/
def queryHole (b : Bindings) (target : String) (quote : Option Char) (name : String) :
    Except String Form :=
  if name = target then
    .ok (if quote = some '"' then [none] else [some '"', none, some '"'])
  else (b.value name).map fun v => (jsonLiteral quote v).map some

def queryForm (b : Bindings) (target : String) :
    (before : Option Char) → List Piece → Except String Form
  | _, [] => .ok []
  | _, .char c :: rest => (queryForm b target (some c) rest).map (some c :: ·)
  | before, .hole name :: rest => do
    let here ← queryHole b target (enclosingQuote? before (nextChar rest)) name
    let more ← queryForm b target none rest
    .ok (here ++ more)

/-- What stands for a hole is the form of the hole, filled with the escaped text of the variable. -/
theorem queryHole_assign {b : Bindings} {target : String} (htype : b.type? target = none)
    (s : String) (quote : Option Char) (name : String) :
    ((b.assign target s).value name).map (jsonLiteral quote) =
      (queryHole b target quote name).map (Form.fill (Json.escaped s.toList)) := by
  by_cases hname : name = target
  · rw [hname, Bindings.value_assign_self htype, queryHole, if_pos rfl]
    refine congrArg Except.ok ?_
    by_cases hquote : quote = some '"'
    · rw [jsonLiteral, if_pos hquote, if_pos hquote, Form.fill_gap]
      exact (List.append_nil _).symm
    · rw [jsonLiteral, if_neg hquote, if_neg hquote, compact_string]
      rfl
  · rw [Bindings.value_assign_of_ne hname, queryHole, if_neg hname]
    cases b.value name with
    | error e => rfl
    | ok v => simp [Except.map, Form.fill_map_some]

/-- Filling a query with a string fills the gaps of its form with the written string. -/
theorem fillQuery_assign {b : Bindings} {target : String} (htype : b.type? target = none)
    (s : String) (before : Option Char) (ps : List Piece) :
    fillQuery (b.assign target s) before ps =
      (queryForm b target before ps).map (Form.fill (Json.escaped s.toList)) := by
  induction ps generalizing before with
  | nil => rfl
  | cons p rest ih =>
      cases p with
      | char c =>
          rw [fillQuery, queryForm, ih]
          cases queryForm b target (some c) rest <;> rfl
      | hole name =>
          have hhole := queryHole_assign htype s (enclosingQuote? before (nextChar rest)) name
          rw [queryForm, fillQuery_hole, hhole, ih]
          cases queryHole b target (enclosingQuote? before (nextChar rest)) name with
          | error e => rfl
          | ok here =>
              cases queryForm b target none rest with
              | error e => rfl
              | ok more => simp [bind, Except.bind, Except.map, Form.fill_append]

/-- Where all other variables have values, a template has a form. -/
theorem exists_queryForm {b : Bindings} {target : String} {ps : List Piece}
    (hsupplied : ∀ name, .hole name ∈ ps → name ≠ target → ∃ v, b.value name = .ok v)
    (before : Option Char) : ∃ form, queryForm b target before ps = .ok form := by
  induction ps generalizing before with
  | nil => exact ⟨[], rfl⟩
  | cons p rest ih =>
      have hrest := ih fun name hmem => hsupplied name (List.mem_cons_of_mem _ hmem)
      cases p with
      | char c =>
          rcases hrest (some c) with ⟨form, hform⟩
          rw [queryForm, hform]
          exact ⟨_, rfl⟩
      | hole name =>
          rcases hrest none with ⟨form, hform⟩
          by_cases hname : name = target
          · rw [queryForm, queryHole, if_pos hname, hform]
            exact ⟨_, rfl⟩
          · rcases hsupplied name List.mem_cons_self hname with ⟨v, hv⟩
            rw [queryForm, queryHole, if_neg hname, hv, hform]
            exact ⟨_, rfl⟩

/-! ## Forms of paths -/

/-- A value in a path, in place of a hole that may stand between quotes. -/
def pathText (quoted : Bool) (v : Json) : List Char :=
  if quoted then XPath.literalChars v.text.toList else pathLiteral v

/-- The form of a hole in a path, with its quotes if it has some: a gap for the target. -/
def pathHole (b : Bindings) (target : String) (quoted : Bool) (name : String) :
    Except String Form :=
  if name = target then .ok [none] else (b.value name).map fun v => (pathText quoted v).map some

def pathForm (b : Bindings) (target : String) : List Piece → Except String Form
  | [] => .ok []
  | .char open' :: .hole name :: .char close :: rest =>
    if open' = close ∧ isQuote open' then do
      let here ← pathHole b target true name
      let more ← pathForm b target rest
      .ok (here ++ more)
    else (pathForm b target (.hole name :: .char close :: rest)).map (some open' :: ·)
  | .char c :: rest => (pathForm b target rest).map (some c :: ·)
  | .hole name :: rest => do
    let here ← pathHole b target false name
    let more ← pathForm b target rest
    .ok (here ++ more)

/--
What stands for a hole is the form of the hole, filled with the literals of the variable's text.
-/
theorem pathHole_assign {b : Bindings} {target : String} (htype : b.type? target = none)
    (s : String) (quoted : Bool) (name : String) :
    ((b.assign target s).value name).map (pathText quoted) =
      (pathHole b target quoted name).map (Form.fill (XPath.literalChars s.toList)) := by
  by_cases hname : name = target
  · have htext : pathText quoted (.string s) = XPath.literalChars s.toList := by
      cases quoted <;> rfl
    rw [hname, Bindings.value_assign_self htype, pathHole, if_pos rfl]
    refine congrArg Except.ok ?_
    rw [htext, Form.fill_gap]
    exact (List.append_nil _).symm
  · rw [Bindings.value_assign_of_ne hname, pathHole, if_neg hname]
    cases b.value name with
    | error e => rfl
    | ok v => simp [Except.map, Form.fill_map_some]

/-- A hole and what follows it are filled apart. -/
theorem fill_hole_assign {b : Bindings} {target : String} (htype : b.type? target = none)
    (s : String) (quoted : Bool) (name : String) (form : Except String Form) :
    (do
      let v ← (b.assign target s).value name
      let more ← form.map (Form.fill (XPath.literalChars s.toList))
      .ok (pathText quoted v ++ more)) =
    (do
      let here ← pathHole b target quoted name
      let more ← form
      .ok (here ++ more)).map (Form.fill (XPath.literalChars s.toList)) := by
  have hhole := pathHole_assign htype s quoted name
  -- the value is missing exactly when the form of the hole is
  cases hvalue : (b.assign target s).value name with
  | error e =>
      rw [hvalue] at hhole
      cases hform : pathHole b target quoted name with
      | error e' =>
          rw [hform] at hhole
          cases hhole
          rfl
      | ok here =>
          rw [hform] at hhole
          cases hhole
  | ok v =>
      rw [hvalue] at hhole
      cases hform : pathHole b target quoted name with
      | error e =>
          rw [hform] at hhole
          cases hhole
      | ok here =>
          rw [hform] at hhole
          have hhere : pathText quoted v = Form.fill (XPath.literalChars s.toList) here :=
            Except.ok.inj hhole
          cases form with
          | error e => rfl
          | ok more => simp [bind, Except.bind, Except.map, hhere, Form.fill_append]

/-- Filling a path with a string fills the gaps of its form with the string expression. -/
theorem fillPath_assign {b : Bindings} {target : String} (htype : b.type? target = none)
    (s : String) (ps : List Piece) :
    fillPath (b.assign target s) ps =
      (pathForm b target ps).map (Form.fill (XPath.literalChars s.toList)) := by
  have hkept : ∀ (c : Char) (form : Except String Form),
      (form.map (Form.fill (XPath.literalChars s.toList))).map (c :: ·) =
        (form.map (some c :: ·)).map (Form.fill (XPath.literalChars s.toList)) := by
    intro c form
    cases form <;> rfl
  induction ps using fillPath.induct with
  | case1 => rfl
  | case2 q name close rest hquotes ih =>
      rw [fillPath, pathForm, if_pos hquotes, if_pos hquotes, ih]
      exact fill_hole_assign htype s true name _
  | case3 c name close rest hnot ih =>
      rw [fillPath, pathForm, if_neg hnot, if_neg hnot, ih, hkept]
  | case4 c rest hpattern ih =>
      -- no hole with a character on each side stands at the front, so both definitions go on
      have hfill : fillPath (b.assign target s) (.char c :: rest) =
          (fillPath (b.assign target s) rest).map (c :: ·) := by
        rw [fillPath]
        exact hpattern
      have hform : pathForm b target (.char c :: rest) =
          (pathForm b target rest).map (some c :: ·) := by
        rw [pathForm]
        exact hpattern
      rw [hfill, hform, ih, hkept]
  | case5 name rest ih =>
      rw [fillPath, pathForm, ih]
      exact fill_hole_assign htype s false name _

/-- A hole has a form if its variable has a value or is the target. -/
theorem exists_pathHole {b : Bindings} {target : String} {name : String}
    (hsupplied : name ≠ target → ∃ v, b.value name = .ok v) (quoted : Bool) :
    ∃ form, pathHole b target quoted name = .ok form := by
  by_cases hname : name = target
  · exact ⟨_, if_pos hname⟩
  · rcases hsupplied hname with ⟨v, hv⟩
    rw [pathHole, if_neg hname, hv]
    exact ⟨_, rfl⟩

/-- Where all other variables have values, a path has a form. -/
theorem exists_pathForm {b : Bindings} {target : String} {ps : List Piece}
    (hsupplied : ∀ name, .hole name ∈ ps → name ≠ target → ∃ v, b.value name = .ok v) :
    ∃ form, pathForm b target ps = .ok form := by
  -- the cases are those of filling, and only a hole needs a value
  induction ps using fillPath.induct with
  | case1 => exact ⟨[], rfl⟩
  | case2 q name close rest hquotes ih =>
      rcases exists_pathHole (hsupplied name (by simp)) true with ⟨here, hhere⟩
      rcases ih fun n hn => hsupplied n (by simp [hn]) with ⟨more, hmore⟩
      rw [pathForm, if_pos hquotes, hhere, hmore]
      exact ⟨_, rfl⟩
  | case3 c name close rest hnot ih =>
      rcases ih fun n hn => hsupplied n (List.mem_cons_of_mem _ hn) with ⟨more, hmore⟩
      rw [pathForm, if_neg hnot, hmore]
      exact ⟨_, rfl⟩
  | case4 c rest hpattern ih =>
      rcases ih fun n hn => hsupplied n (List.mem_cons_of_mem _ hn) with ⟨more, hmore⟩
      have hform : pathForm b target (.char c :: rest) =
          (pathForm b target rest).map (some c :: ·) := by
        rw [pathForm]
        exact hpattern
      rw [hform, hmore]
      exact ⟨_, rfl⟩
  | case5 name rest ih =>
      rcases exists_pathHole (hsupplied name List.mem_cons_self) false with ⟨here, hhere⟩
      rcases ih fun n hn => hsupplied n (List.mem_cons_of_mem _ hn) with ⟨more, hmore⟩
      rw [pathForm, hhere, hmore]
      exact ⟨_, rfl⟩

end Template
end Gleaner
