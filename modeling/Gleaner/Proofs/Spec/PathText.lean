import Gleaner.Proofs.Spec.BlockLayout
import Gleaner.Proofs.Text.Names
/-!
# The text of paths

Each step of a path begins with a mark, a period or an opening bracket, and no mark stands inside of
a step, so the text of a path can be taken apart into its steps again.

* `spell_key`, `spell_index`: one step more at the end of a path;
* `spell_injective`: paths with the same text are the same;
* `backslash_not_mem_spell`: no path has a backslash in its text.
-/

namespace Gleaner
namespace Layout

/-- The characters that begin a step. -/
def isMark (c : Char) : Bool :=
  c == '.' || c == '['

/-! ## The characters of steps -/

theorem Key.exists_cons (k : Key) : ∃ c rest, k.text = c :: rest ∧
    ∀ d ∈ c :: rest, Text.isNameChar d = true := by
  have hname : Text.isName (String.ofList k.text) = true := by
    rw [Text.isName, String.toList_ofList]
    exact k.isName
  rcases Text.exists_cons_of_isName hname with ⟨c, rest, htext, hc, hrest⟩
  rw [String.toList_ofList] at htext
  exact ⟨c, rest, htext, List.forall_mem_cons.2 ⟨Text.isNameChar_of_isNameStart hc, hrest⟩⟩

theorem Key.isNameChar_of_mem {k : Key} {c : Char} (hc : c ∈ k.text) :
    Text.isNameChar c = true := by
  rcases k.exists_cons with ⟨first, rest, htext, hchars⟩
  rw [htext] at hc
  exact hchars c hc

theorem Key.ne_nil (k : Key) : k.text ≠ [] := by
  rcases k.exists_cons with ⟨first, rest, htext, -⟩
  rw [htext]
  exact List.cons_ne_nil first rest

/-- A character that is none of names does not stand in a key. -/
theorem Key.not_mem {c : Char} (hc : Text.isNameChar c = false) (k : Key) : c ∉ k.text := by
  intro hmem
  rw [Key.isNameChar_of_mem hmem] at hc
  cases hc

/-- Keys are told apart by their texts. -/
theorem Key.ext {k l : Key} (h : k.text = l.text) : k = l := by
  cases k
  cases l
  cases h
  rfl

theorem isDigit_of_mem_index {i : Nat} {c : Char} (hc : c ∈ (toString i).toList) :
    c.isDigit = true := by
  rw [Nat.toString_eq_repr, Nat.toList_repr] at hc
  exact Nat.isDigit_of_mem_toDigits (by decide) (by decide) hc

theorem index_injective {i j : Nat} (h : (toString i).toList = (toString j).toList) : i = j :=
  Nat.repr_injective (String.toList_injective h)

/-- A step begins with a mark, and no other character of it is one. -/
theorem Step.exists_cons (s : Step) : ∃ c rest, s.text = c :: rest ∧ isMark c = true ∧
    ∀ d ∈ rest, isMark d = false := by
  cases s with
  | key k =>
      refine ⟨'.', k.text, rfl, rfl, fun d hd => ?_⟩
      have hname := Key.isNameChar_of_mem hd
      simp only [isMark, Bool.or_eq_false_iff, beq_eq_false_iff_ne]
      exact ⟨fun h => absurd (h ▸ hname) (by decide), fun h => absurd (h ▸ hname) (by decide)⟩
  | index i =>
      refine ⟨'[', (toString i).toList ++ [']'], rfl, rfl, fun d hd => ?_⟩
      rcases List.mem_append.1 hd with hdigit | hbracket
      · have hdigit := isDigit_of_mem_index hdigit
        simp only [isMark, Bool.or_eq_false_iff, beq_eq_false_iff_ne]
        exact ⟨fun h => absurd (h ▸ hdigit) (by decide), fun h => absurd (h ▸ hdigit) (by decide)⟩
      · rw [List.mem_singleton.1 hbracket]
        rfl

/-- Steps are told apart by their texts. -/
theorem Step.text_injective {s t : Step} (h : s.text = t.text) : s = t := by
  cases s with
  | key k =>
      cases t with
      | key l => rw [Key.ext (List.cons.inj h).2]
      | index j => cases (List.cons.inj h).1
  | index i =>
      cases t with
      | key l => cases (List.cons.inj h).1
      | index j =>
          have hdigits := List.append_cancel_right (List.cons.inj h).2
          rw [index_injective hdigits]

/-! ## Steps one after another -/

/-- Every step begins with a mark. -/
theorem head?_flatMap_text (p : Path) : ∀ c ∈ (p.flatMap Step.text).head?, isMark c = true := by
  cases p with
  | nil => nofun
  | cons s p =>
      rcases s.exists_cons with ⟨c, rest, htext, hmark, -⟩
      rw [List.flatMap_cons, htext]
      rintro d ⟨⟩
      exact hmark

/-- A step ends where the next mark stands. -/
theorem takeWhile_step {rest more : List Char} (hrest : ∀ d ∈ rest, isMark d = false)
    (hmore : ∀ c ∈ more.head?, isMark c = true) :
    (rest ++ more).takeWhile (fun d => !isMark d) = rest := by
  have hall : ∀ d ∈ rest, (!isMark d) = true := by
    intro d hd
    rw [hrest d hd]
    rfl
  rw [List.takeWhile_append_of_pos hall]
  cases more with
  | nil => exact List.append_nil rest
  | cons c more => rw [List.takeWhile_cons_of_neg (by simp [hmore c rfl]), List.append_nil]

/-- The steps can be found in their texts one after another. -/
theorem flatMap_text_injective {p q : Path} (h : p.flatMap Step.text = q.flatMap Step.text) :
    p = q := by
  induction p generalizing q with
  | nil =>
      cases q with
      | nil => rfl
      | cons t q =>
          rcases t.exists_cons with ⟨c, rest, htext, -, -⟩
          rw [List.flatMap_cons, htext] at h
          cases h
  | cons s p ih =>
      rcases s.exists_cons with ⟨c, rest, hs, -, hrest⟩
      cases q with
      | nil =>
          rw [List.flatMap_cons, hs] at h
          cases h
      | cons t q =>
          rcases t.exists_cons with ⟨d, more, ht, -, hmore⟩
          rw [List.flatMap_cons, List.flatMap_cons, hs, ht, List.cons_append, List.cons_append] at h
          obtain ⟨hc, hafter⟩ := List.cons.inj h
          -- a step ends where the next one begins, so the first steps are equal
          have hfirst : rest = more := by
            rw [← takeWhile_step hrest (head?_flatMap_text p), hafter,
              takeWhile_step hmore (head?_flatMap_text q)]
          have hstep : s = t := Step.text_injective (by rw [hs, ht, hc, hfirst])
          rw [hfirst] at hafter
          rw [hstep, ih (List.append_cancel_left hafter)]

/-! ## Paths -/

/-- A path is the texts of its steps, but for a period in front. -/
theorem flatMap_text_eq (p : Path) :
    p.flatMap Step.text = (match p with | .key _ :: _ => ['.'] | _ => []) ++ spell p := by
  match p with
  | [] => rfl
  | .key k :: rest => rfl
  | .index i :: rest => rfl

/-- Only the empty path is spelled without characters. -/
theorem spell_eq_nil_iff {p : Path} : spell p = [] ↔ p = [] := by
  match p with
  | [] => simp [spell]
  | .key k :: rest => simp [spell, k.ne_nil]
  | .index i :: rest => simp [spell, Step.text]

/-- Paths are told apart by their texts. -/
theorem spell_injective {p q : Path} (h : spell p = spell q) : p = q := by
  have hfirst : ∀ (k : Key) (rest more : Path) (i : Nat),
      spell (.key k :: rest) ≠ spell (.index i :: more) := by
    intro k rest more i heq
    rcases k.exists_cons with ⟨c, cs, htext, hname⟩
    rw [spell, spell, htext] at heq
    have hc := hname c List.mem_cons_self
    rw [(List.cons.inj heq).1] at hc
    exact absurd hc (by decide)
  match p, q with
  | [], q => exact (spell_eq_nil_iff.1 h.symm).symm
  | p, [] => exact spell_eq_nil_iff.1 h
  | .key k :: rest, .key l :: more =>
      exact flatMap_text_injective (congrArg ('.' :: ·) h)
  | .index i :: rest, .index j :: more => exact flatMap_text_injective h
  | .key k :: rest, .index j :: more => exact absurd h (hfirst k rest more j)
  | .index i :: rest, .key l :: more => exact absurd h.symm (hfirst l more rest i)

theorem spell_concat_of_ne_nil {p : Path} (hp : p ≠ []) (s : Step) :
    spell (p ++ [s]) = spell p ++ s.text := by
  match p, hp with
  | .key k :: rest, _ => simp [spell]
  | .index i :: rest, _ => simp [spell]

/-- One key more. -/
theorem spell_key (p : Path) (k : Key) :
    spell (p ++ [.key k]) = Locator.keyPath (spell p) k.text := by
  by_cases hp : p = []
  · subst hp
    simp [spell, Locator.keyPath]
  · have hspell : (spell p).isEmpty = false := by
      rw [List.isEmpty_eq_false_iff]
      exact fun h => hp (spell_eq_nil_iff.1 h)
    rw [spell_concat_of_ne_nil hp, Locator.keyPath, hspell]
    rfl

/-- One item more. -/
theorem spell_index (p : Path) (i : Nat) :
    spell (p ++ [.index i]) = Locator.itemPath (spell p) i := by
  by_cases hp : p = []
  · subst hp
    simp [spell, Step.text, Locator.itemPath]
  · rw [spell_concat_of_ne_nil hp, Locator.itemPath]
    simp [Step.text]

/-- Of two paths that go one step further and lead to the same part, the step is the same. -/
theorem eq_of_prefix_concat {path q : Path} {s t : Step} (hs : path ++ [s] <+: q)
    (ht : path ++ [t] <+: q) : s = t := by
  rcases hs with ⟨rest, rfl⟩
  rcases ht with ⟨more, heq⟩
  rw [List.append_assoc, List.append_assoc] at heq
  exact (List.cons.inj (List.append_cancel_left heq)).1.symm

/-- A path has no backslash in its text. -/
theorem backslash_not_mem_spell (p : Path) : '\\' ∉ spell p := by
  have hkey : ∀ k : Key, '\\' ∉ k.text := Key.not_mem (by decide)
  have hstep : ∀ s : Step, '\\' ∉ s.text := by
    intro s hmem
    cases s with
    | key k =>
        rcases List.mem_cons.1 hmem with heq | hmem
        · cases heq
        · exact hkey k hmem
    | index i =>
        simp only [Step.text, List.mem_cons, List.mem_append, List.not_mem_nil, or_false] at hmem
        rcases hmem with (heq | hmem) | heq
        · cases heq
        · exact absurd (isDigit_of_mem_index hmem) (by decide)
        · cases heq
  have hsteps : ∀ q : Path, '\\' ∉ q.flatMap Step.text := by
    intro q hmem
    rcases List.mem_flatMap.1 hmem with ⟨s, -, hs⟩
    exact hstep s hs
  intro hmem
  refine hsteps p ?_
  rw [flatMap_text_eq]
  exact List.mem_append_right _ hmem

end Layout
end Gleaner
