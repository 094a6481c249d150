import Gleaner.Proofs.Template.Cutting
import Gleaner.Proofs.Text.Slice
/-!
# Where the holes of a template stand

Two holes of a text are the same or stand apart, so cutting a template from the left misses none.

* `Placeholder.StandsBetween` says that a placeholder describes the hole between two texts;
* `source_overlap`: two holes in one text never share a part of it;
* `mem_placeholders_iff`: the placeholders are all occurrences of holes;
* `holeNames` are the names of the holes, which are the ones of the placeholders;
* `pairwise_placeholdersFrom`: they are listed from left to right.
-/

namespace Gleaner
namespace Template

open Text (byteLength byteLength_cons byteLength_append)

/-- A placeholder describes a hole with a text before and a text after it. -/
structure Placeholder.StandsBetween (p : Placeholder) (front back : List Char) : Prop where
  isName : Text.isName p.name = true
  start : p.start = byteLength front
  stop : p.stop = p.start + byteLength (Piece.hole p.name).source
  before : p.before = front.getLast?
  after : p.after = back.head?

/-- A hole has one description. -/
theorem Placeholder.StandsBetween.eq {p q : Placeholder} {front back : List Char}
    (hp : p.StandsBetween front back) (hq : q.StandsBetween front back) (hname : p.name = q.name) :
    p = q := by
  have hstart : p.start = q.start := hp.start.trans hq.start.symm
  have hstop : p.stop = q.stop := by rw [hp.stop, hq.stop, hstart, hname]
  have hbefore : p.before = q.before := hp.before.trans hq.before.symm
  have hafter : p.after = q.after := hp.after.trans hq.after.symm
  cases p
  cases q
  simp_all

/-! ## Two holes in one text -/

/-- Inside of a hole only its second character opens a brace. -/
theorem source_eq_append {name : String} {front ds : List Char} (hname : Text.isName name = true)
    (h : (Piece.hole name).source = front ++ '\x7b' :: ds) :
    front = [] ∨ front = ['\x7b'] ∧ ds.head? ≠ some '\x7b' ∧ ds ≠ [] := by
  have hbody : ∀ c ∈ name.toList ++ ['\x7d', '\x7d'], c ≠ '\x7b' := by
    intro c hc
    rcases List.mem_append.1 hc with hword | hclose
    · have hchar : Text.isNameChar c = true := by
        cases hlist : name.toList with
        | nil => simp [hlist] at hword
        | cons d more =>
            simp only [Text.isName, hlist, Text.isNameChars, Bool.and_eq_true,
              List.all_eq_true] at hname
            rcases List.mem_cons.1 (hlist ▸ hword) with rfl | hmore
            · exact Text.isNameChar_of_isNameStart hname.1
            · exact hname.2 c hmore
      rintro rfl
      exact absurd hchar (by decide)
    · have hc : c = '\x7d' := by simpa using hclose
      rw [hc]
      decide
  have hsource : (Piece.hole name).source =
      '\x7b' :: '\x7b' :: (name.toList ++ ['\x7d', '\x7d']) := by simp [Piece.source]
  rw [hsource] at h
  cases front with
  | nil => exact .inl rfl
  | cons f front =>
      rcases List.cons.inj h with ⟨rfl, hrest⟩
      cases front with
      | nil =>
          rcases List.cons.inj hrest with ⟨_, rfl⟩
          refine .inr ⟨rfl, fun hhead => ?_, by simp⟩
          exact hbody _ (List.mem_of_mem_head? hhead) rfl
      | cons g front =>
          -- the brace would stand in the name or behind it
          rcases List.cons.inj hrest with ⟨_, hrest⟩
          exact absurd rfl (hbody '\x7b' (by simp [hrest]))

/-- Two holes of a text are the same, or the second one stands after the first one. -/
theorem source_overlap {name name' : String} {front back rest : List Char}
    (hname : Text.isName name = true) (hname' : Text.isName name' = true)
    (h : (Piece.hole name).source ++ rest = front ++ (Piece.hole name').source ++ back) :
    front = [] ∧ name' = name ∧ back = rest ∨
      ∃ between, front = (Piece.hole name).source ++ between ∧
        rest = between ++ (Piece.hole name').source ++ back := by
  have hbraces : (Piece.hole name').source ++ back =
      '\x7b' :: '\x7b' :: (name'.toList ++ '\x7d' :: '\x7d' :: back) := by simp [Piece.source]
  rw [List.append_assoc] at h
  rcases List.append_eq_append_iff.1 h with ⟨between, hfront, hrest⟩ | ⟨cs, hsource, hcs⟩
  · exact .inr ⟨between, hfront, by rw [hrest, List.append_assoc]⟩
  cases cs with
  | nil => exact .inr ⟨[], by simpa using hsource.symm, by simpa using hcs.symm⟩
  | cons c ds =>
      -- the second hole would begin inside of the first one
      rw [hbraces] at hcs
      rcases List.cons.inj hcs with ⟨rfl, hds⟩
      rcases source_eq_append hname hsource with rfl | ⟨rfl, hhead, hne⟩
      · have hfound := holeAt?_source hname rest
        rw [h, List.nil_append, holeAt?_source hname' back] at hfound
        have heq : name' = name := (Prod.mk.inj (Option.some.inj hfound)).1
        subst heq
        exact .inl ⟨rfl, rfl, (List.append_cancel_left h).symm⟩
      · cases ds with
        | nil => exact absurd rfl hne
        | cons d ds =>
            rcases List.cons.inj hds with ⟨rfl, _⟩
            exact absurd rfl hhead

/-! ## The placeholders -/

theorem placeholdersFrom_char (front : List Char) (c : Char) (ps : List Piece) :
    placeholdersFrom (byteLength front) front.getLast? (.char c :: ps) =
      placeholdersFrom (byteLength (front ++ [c])) (front ++ [c]).getLast? ps := by
  rw [placeholdersFrom, byteLength_append, byteLength_cons, List.getLast?_concat]
  rfl

theorem getLast?_append_source (front : List Char) (name : String) :
    (front ++ (Piece.hole name).source).getLast? = some '\x7d' := by
  have hsource : (Piece.hole name).source =
      ('\x7b' :: '\x7b' :: (name.toList ++ ['\x7d'])) ++ ['\x7d'] := by simp [Piece.source]
  rw [hsource, ← List.append_assoc, List.getLast?_concat]

/-- The placeholders of a text after another one are the holes that stand in it. -/
theorem mem_placeholdersFrom_iff {p : Placeholder} (front cs : List Char) :
    p ∈ placeholdersFrom (byteLength front) front.getLast? (pieces cs) ↔
      ∃ before after, cs = before ++ (Piece.hole p.name).source ++ after ∧
        p.StandsBetween (front ++ before) after := by
  induction cs using cutting_induction generalizing front with
  | nil =>
      constructor
      · simp [pieces_nil, placeholdersFrom]
      · rintro ⟨before, after, hcs, _⟩
        simp [Piece.source] at hcs
  | char c rest hnone ih =>
      rw [pieces_cons hnone, placeholdersFrom_char, ih (front ++ [c])]
      constructor
      · rintro ⟨before, after, rfl, hstands⟩
        exact ⟨c :: before, after, rfl, by simpa using hstands⟩
      · rintro ⟨before, after, hcs, hstands⟩
        cases before with
        | nil =>
            -- the character would open a hole
            rw [List.nil_append] at hcs
            rw [hcs, holeAt?_source hstands.isName] at hnone
            cases hnone
        | cons d before =>
            rcases List.cons.inj hcs with ⟨rfl, hrest⟩
            exact ⟨before, after, hrest, by simpa using hstands⟩
  | hole name rest hname ih =>
      have hmore := ih (front ++ (Piece.hole name).source)
      rw [byteLength_append, getLast?_append_source] at hmore
      rw [pieces_hole hname, placeholdersFrom, List.mem_cons, hmore, flatMap_source_pieces]
      have hfirst : Placeholder.StandsBetween ⟨byteLength front,
          byteLength front + byteLength (Piece.hole name).source, name, front.getLast?,
          rest.head?⟩ (front ++ []) rest :=
        ⟨hname, by rw [List.append_nil], rfl, by rw [List.append_nil], rfl⟩
      constructor
      · rintro (rfl | ⟨before, after, rfl, hstands⟩)
        · exact ⟨[], rest, rfl, hfirst⟩
        · exact ⟨(Piece.hole name).source ++ before, after, by simp, by simpa using hstands⟩
      · rintro ⟨before, after, hcs, hstands⟩
        rcases source_overlap hname hstands.isName hcs with ⟨rfl, heq, rfl⟩ | ⟨between, rfl, rfl⟩
        · exact .inl (hstands.eq hfirst heq)
        · exact .inr ⟨between, after, rfl, by simpa using hstands⟩

/-- The placeholders of a text are exactly the holes in it. -/
theorem mem_placeholders_iff {p : Placeholder} (s : String) :
    p ∈ placeholders s ↔ ∃ front back, s.toList = front ++ (Piece.hole p.name).source ++ back ∧
      p.StandsBetween front back :=
  mem_placeholdersFrom_iff [] s.toList

def holeNames (ps : List Piece) : List String :=
  ps.filterMap fun
    | .char _ => none
    | .hole name => some name

/-- The placeholders are the holes, in order. -/
theorem map_name_placeholdersFrom (offset : Nat) (before : Option Char) (ps : List Piece) :
    (placeholdersFrom offset before ps).map Placeholder.name = holeNames ps := by
  induction ps generalizing offset before with
  | nil => rfl
  | cons p rest ih =>
      cases p with
      | char c => exact ih _ _
      | hole name => exact congrArg _ (ih _ _)

/-- Placeholders stand where the pieces begin or behind it. -/
theorem le_start_of_mem {offset : Nat} {before : Option Char} {ps : List Piece} {p : Placeholder}
    (h : p ∈ placeholdersFrom offset before ps) : offset ≤ p.start := by
  induction ps generalizing offset before with
  | nil => simp [placeholdersFrom] at h
  | cons piece rest ih =>
      cases piece with
      | char c => exact Nat.le_trans (Nat.le_add_right _ _) (ih h)
      | hole name =>
          rcases List.mem_cons.1 h with rfl | hmem
          · exact Nat.le_refl _
          · exact Nat.le_trans (Nat.le_add_right _ _) (ih hmem)

/-- The placeholders are listed from left to right, and none reaches into the next one. -/
theorem pairwise_placeholdersFrom (offset : Nat) (before : Option Char) (ps : List Piece) :
    (placeholdersFrom offset before ps).Pairwise fun p q => p.stop ≤ q.start := by
  induction ps generalizing offset before with
  | nil => exact .nil
  | cons piece rest ih =>
      cases piece with
      | char c => exact ih _ _
      | hole name => exact .cons (fun q hq => le_start_of_mem hq) (ih _ _)

end Template
end Gleaner
