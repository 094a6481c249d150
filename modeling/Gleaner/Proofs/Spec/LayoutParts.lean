import Gleaner.Proofs.Spec.PathText
/-!
# The parts of a document in block style

A document is written from left to right and from top to bottom, so its parts stand in order, and no
two of them at the same place. No path leads to two parts if no mapping has a key twice.

* `Arranged` is the invariant of the parts of a tree, and `append` and `cons` put parts together;
* `Node.isArranged` and its siblings, one for each type of tree, give it to all trees;
* `Part.StandsIn` says that a part is written at its place, and `Node.shows` and its siblings that
  all parts of a tree are;
* `Document.location_injective`, `Document.place_injective`: a place belongs to one part, and a path
  to one place.
-/

namespace Gleaner
namespace Layout

/-! ## Places in order -/

def Part.location : Part → Location
  | .place _ location | .text _ location _ => location

/-- The path of a key or an item. -/
def Part.path? : Part → Option Path
  | .place path _ => some path
  | .text .. => none

/-- One place comes before another one: on a line above it, or further left. -/
def Precedes (a b : Location) : Prop :=
  a.line < b.line ∨ a.line = b.line ∧ a.column < b.column

theorem Precedes.trans {a b c : Location} (hab : Precedes a b) (hbc : Precedes b c) :
    Precedes a c := by
  unfold Precedes at *
  omega

/-- A place does not come before itself. -/
theorem Precedes.ne {a b : Location} (h : Precedes a b) : a ≠ b := by
  rintro rfl
  unfold Precedes at h
  omega

/--
Parts of a tree that begins behind a place and ends before a line: they stand in order, and their
paths are different ones of those that belong to the tree.
-/
structure Arranged (belongs : Path → Prop) (start : Location) (stop : Nat) (parts : List Part) :
    Prop where
  under : ∀ path ∈ parts.filterMap Part.path?, belongs path
  distinct : (parts.filterMap Part.path?).Nodup
  behind : ∀ part ∈ parts, Precedes start part.location
  above : ∀ part ∈ parts, part.location.line < stop
  ordered : parts.Pairwise fun a b => Precedes a.location b.location

namespace Arranged

variable {belongs belongs' : Path → Prop} {start start' : Location} {stop stop' : Nat}
  {parts more : List Part}

/-- Parts arranged for fewer paths and lines are arranged for more. -/
theorem mono (h : Arranged belongs start stop parts) (hbelongs : ∀ q, belongs q → belongs' q)
    (hstop : stop ≤ stop') : Arranged belongs' start stop' parts where
  under path hpath := hbelongs path (h.under path hpath)
  distinct := h.distinct
  behind := h.behind
  above part hpart := Nat.lt_of_lt_of_le (h.above part hpart) hstop
  ordered := h.ordered

theorem nil : Arranged belongs start stop [] where
  under := nofun
  distinct := List.nodup_nil
  behind := nofun
  above := nofun
  ordered := .nil

/-- One tree below another one. -/
theorem append (h : Arranged belongs start stop parts) (h' : Arranged belongs' start' stop' more)
    (hstart : start.line < stop) (hbelow : start'.line = stop) (hstop : stop ≤ stop')
    (hdisjoint : ∀ q, belongs q → ¬ belongs' q) :
    Arranged (fun q => belongs q ∨ belongs' q) start stop' (parts ++ more) where
  under path hpath := by
    rw [List.filterMap_append, List.mem_append] at hpath
    exact hpath.imp (h.under path) (h'.under path)
  distinct := by
    rw [List.filterMap_append, List.nodup_append]
    refine ⟨h.distinct, h'.distinct, ?_⟩
    rintro p hp q hq rfl
    exact hdisjoint p (h.under p hp) (h'.under p hq)
  behind part hpart := by
    rcases List.mem_append.1 hpart with hpart | hpart
    · exact h.behind part hpart
    · refine Precedes.trans ?_ (h'.behind part hpart)
      exact .inl (hbelow ▸ hstart)
  above part hpart := by
    rcases List.mem_append.1 hpart with hpart | hpart
    · exact Nat.lt_of_lt_of_le (h.above part hpart) hstop
    · exact h'.above part hpart
  ordered := by
    rw [List.pairwise_append]
    refine ⟨h.ordered, h'.ordered, fun a ha b hb => ?_⟩
    have habove := h.above a ha
    have hbehind := h'.behind b hb
    unfold Precedes at hbehind ⊢
    omega

/-- A key or a dash, and a tree behind it. -/
theorem cons {path : Path} {line column : Nat} (h : Arranged belongs start stop parts)
    (hpath : belongs' path) (hbelongs : ∀ q, belongs q → belongs' q ∧ q ≠ path)
    (hstart : Precedes ⟨line, column⟩ start) (hstop : line < stop) :
    Arranged belongs' ⟨line, column⟩ stop (.place path ⟨line, column + 1⟩ :: parts) where
  under q hq := by
    rcases List.mem_cons.1 hq with rfl | hq
    · exact hpath
    · exact (hbelongs q (h.under q hq)).1
  distinct := by
    refine List.nodup_cons.2 ⟨fun hmem => ?_, h.distinct⟩
    exact (hbelongs path (h.under path hmem)).2 rfl
  behind part hpart := by
    rcases List.mem_cons.1 hpart with rfl | hpart
    · exact .inr ⟨rfl, Nat.lt_succ_self column⟩
    · exact hstart.trans (h.behind part hpart)
  above part hpart := by
    rcases List.mem_cons.1 hpart with rfl | hpart
    · exact hstop
    · exact h.above part hpart
  ordered := by
    refine List.pairwise_cons.2 ⟨fun part hpart => ?_, h.ordered⟩
    have hbehind := h.behind part hpart
    simp only [Precedes] at hstart hbehind
    show line < part.location.line ∨
      line = part.location.line ∧ column + 1 < part.location.column
    omega

end Arranged

/-! ## Trees -/

/-- The parts of a node stand in order, with different paths below that of the node. -/
def Node.IsArranged (n : Node) : Prop :=
  ∀ (path : Path) (line column : Nat), n.distinct = true →
    Arranged (fun q => path <+: q ∧ q ≠ path) ⟨line, column⟩ (line + 1 + (n.tail column).length)
      (n.parts path line column)

def Entry.IsArranged (e : Entry) : Prop :=
  ∀ (path : Path) (line column : Nat), e.distinct = true →
    Arranged (path ++ [.key e.key] <+: ·) ⟨line, column⟩ (line + 1 + (e.tail column).length)
      (e.parts path line column)

def Entries.IsArranged (es : Entries) : Prop :=
  ∀ (path : Path) (line column : Nat), es.distinct = true →
    Arranged (fun q => ∃ k ∈ es.keys, path ++ [.key k] <+: q) ⟨line, column⟩
      (line + 1 + (es.tail column).length) (es.parts path line column)

def Item.IsArranged (item : Item) : Prop :=
  ∀ (path : Path) (i line column : Nat), item.distinct = true →
    Arranged (path ++ [.index i] <+: ·) ⟨line, column⟩ (line + 1 + (item.tail column).length)
      (item.parts path i line column)

def Items.IsArranged (items : Items) : Prop :=
  ∀ (path : Path) (i line column : Nat), items.distinct = true →
    Arranged (fun q => ∃ j, i ≤ j ∧ path ++ [.index j] <+: q) ⟨line, column⟩
      (line + 1 + (items.tail column).length) (items.parts path i line column)

/-- Below a step there is nothing of the path without it. -/
theorem below_step {path q : Path} {s : Step} (h : path ++ [s] <+: q) : path <+: q ∧ q ≠ path := by
  refine ⟨(List.prefix_append path [s]).trans h, ?_⟩
  rintro rfl
  exact absurd h.length_le (by simp)

theorem Node.isArranged_text (q : Quoted) : (Node.text q).IsArranged := by
  intro path line column hdistinct
  refine ⟨nofun, List.nodup_nil, ?_, ?_, List.pairwise_singleton _ _⟩
  · intro part hpart
    rw [List.mem_singleton.1 hpart]
    exact .inr ⟨rfl, Nat.lt_succ_self column⟩
  · intro part hpart
    rw [List.mem_singleton.1 hpart]
    exact Nat.lt_succ_self line

theorem Node.isArranged_mapping {es : Entries} (hes : es.IsArranged) :
    (Node.mapping es).IsArranged := by
  intro path line column hdistinct
  refine (hes path line column hdistinct).mono ?_ (Nat.le_refl _)
  rintro q ⟨k, -, hq⟩
  exact below_step hq

theorem Node.isArranged_sequence {items : Items} (hitems : items.IsArranged) :
    (Node.sequence items).IsArranged := by
  intro path line column hdistinct
  refine (hitems path 0 line column hdistinct).mono ?_ (Nat.le_refl _)
  rintro q ⟨j, -, hq⟩
  exact below_step hq

/-- A key or a dash, and a tree on the lines below it. -/
theorem Arranged.below {path : Path} {step : Step} {line column column' height stop stop' : Nat}
    {parts : List Part}
    (h : Arranged (fun q => path ++ [step] <+: q ∧ q ≠ path ++ [step])
      ⟨line + 1 + height, column'⟩ stop parts)
    (hline : line < stop) (hstop : stop ≤ stop') :
    Arranged (path ++ [step] <+: ·) ⟨line, column⟩ stop'
      (.place (path ++ [step]) ⟨line, column + 1⟩ :: parts) := by
  have habove : Precedes ⟨line, column⟩ ⟨line + 1 + height, column'⟩ := by
    refine .inl ?_
    show line < line + 1 + height
    omega
  exact .cons (h.mono (fun _ hq => hq) hstop) List.prefix_rfl (fun _ hq => hq) habove
    (Nat.lt_of_lt_of_le hline hstop)

/-- A key with nothing but text for a value. -/
theorem arranged_key (key : Key) (path : Path) (line column : Nat) (stop : Nat)
    (hstop : line < stop) :
    Arranged (path ++ [.key key] <+: ·) ⟨line, column⟩ stop
      [.place (path ++ [.key key]) ⟨line, column + 1⟩] := by
  have hnone : Arranged (fun _ => False) ⟨line + 1, column⟩ stop [] := .nil
  exact .cons hnone List.prefix_rfl nofun (.inl (Nat.lt_succ_self line)) hstop

theorem Entry.isArranged_nested {node : Node} (hnode : node.IsArranged) (key : Key)
    (before : List Filler) (indent : Nat) (after : List Filler) :
    (Entry.nested key before indent node after).IsArranged := by
  intro path line column hdistinct
  have hinner := hnode (path ++ [.key key]) (line + 1 + before.length) (column + 1 + indent)
    hdistinct
  refine .below hinner (by omega) ?_
  simp [Entry.tail]
  omega

/-- A key with a sequence in its own column is arranged, since the sequence is. -/
theorem Entry.isArranged_level {items : Items} (hitems : items.IsArranged) (key : Key)
    (before after : List Filler) : (Entry.level key before items after).IsArranged := by
  intro path line column hdistinct
  have hinner := hitems (path ++ [.key key]) 0 (line + 1 + before.length) column hdistinct
  have hbelongs : ∀ q, (∃ j, 0 ≤ j ∧ path ++ [.key key] ++ [.index j] <+: q) →
      path ++ [.key key] <+: q ∧ q ≠ path ++ [.key key] := by
    rintro q ⟨j, -, hq⟩
    exact below_step hq
  refine .below (hinner.mono hbelongs (Nat.le_refl _)) (by omega) ?_
  simp [Entry.tail]
  omega

theorem Entries.isArranged_last {e : Entry} (he : e.IsArranged) :
    (Entries.last e).IsArranged := by
  intro path line column hdistinct
  exact (he path line column hdistinct).mono (fun q hq => ⟨e.key, List.mem_cons_self, hq⟩)
    (Nat.le_refl _)

/-- Entries in a row are arranged, for the keys in them differ. -/
theorem Entries.isArranged_more {e : Entry} {rest : Entries} (he : e.IsArranged)
    (hrest : rest.IsArranged) : (Entries.more e rest).IsArranged := by
  intro path line column hdistinct
  simp only [Entries.distinct, Bool.and_eq_true, decide_eq_true_eq] at hdistinct
  obtain ⟨⟨hfirst, hnew⟩, hothers⟩ := hdistinct
  have hstop : line + 1 + (e.tail column).length + 1 + (rest.tail column).length ≤
      line + 1 + ((Entries.more e rest).tail column).length := by
    simp [Entries.tail]
    omega
  refine ((he path line column hfirst).append
    (hrest path (line + 1 + (e.tail column).length) column hothers) (by simp; omega) rfl
      (by omega) ?_).mono ?_ hstop
  · rintro q hq ⟨k, hk, hq'⟩
    cases eq_of_prefix_concat hq hq'
    exact hnew hk
  · rintro q (hq | ⟨k, hk, hq⟩)
    · exact ⟨e.key, List.mem_cons_self, hq⟩
    · exact ⟨k, List.mem_cons_of_mem _ hk, hq⟩

theorem Item.isArranged_compact {node : Node} (hnode : node.IsArranged) (space : Nat)
    (after : List Filler) : (Item.compact space node after).IsArranged := by
  intro path i line column hdistinct
  have hstop : line + 1 + (node.tail (column + 2 + space)).length ≤
      line + 1 + ((Item.compact space node after).tail column).length := by
    simp [Item.tail]
  have hinner := (hnode (path ++ [.index i]) line (column + 2 + space) hdistinct).mono
    (fun _ hq => hq) hstop
  have hright : column < column + 2 + space := by omega
  exact .cons hinner List.prefix_rfl (fun _ hq => hq) (.inr ⟨rfl, hright⟩) (by omega)

theorem Item.isArranged_alone {node : Node} (hnode : node.IsArranged) (before : List Filler)
    (indent : Nat) (after : List Filler) : (Item.alone before indent node after).IsArranged := by
  intro path i line column hdistinct
  have hinner := hnode (path ++ [.index i]) (line + 1 + before.length) (column + 1 + indent)
    hdistinct
  refine .below hinner (by omega) ?_
  simp [Item.tail]
  omega

theorem Items.isArranged_last {item : Item} (hitem : item.IsArranged) :
    (Items.last item).IsArranged := by
  intro path i line column hdistinct
  exact (hitem path i line column hdistinct).mono (fun q hq => ⟨i, Nat.le_refl i, hq⟩)
    (Nat.le_refl _)

/-- Items in a row are arranged, for their indices differ. -/
theorem Items.isArranged_more {item : Item} {rest : Items} (hitem : item.IsArranged)
    (hrest : rest.IsArranged) : (Items.more item rest).IsArranged := by
  intro path i line column hdistinct
  simp only [Items.distinct, Bool.and_eq_true] at hdistinct
  have hstop : line + 1 + (item.tail column).length + 1 + (rest.tail column).length ≤
      line + 1 + ((Items.more item rest).tail column).length := by
    simp [Items.tail]
    omega
  refine ((hitem path i line column hdistinct.1).append
    (hrest path (i + 1) (line + 1 + (item.tail column).length) column hdistinct.2) (by simp; omega)
      rfl (by omega) ?_).mono ?_ hstop
  · rintro q hq ⟨j, hj, hq'⟩
    cases eq_of_prefix_concat hq hq'
    omega
  · rintro q (hq | ⟨j, hj, hq⟩)
    · exact ⟨i, Nat.le_refl i, hq⟩
    · exact ⟨j, Nat.le_of_succ_le hj, hq⟩

mutual

theorem Node.isArranged : (n : Node) → n.IsArranged
  | .text q => Node.isArranged_text q
  | .mapping es => Node.isArranged_mapping es.isArranged
  | .sequence items => Node.isArranged_sequence items.isArranged

/-- Every entry is arranged, by recursion with the nodes and items in it. -/
theorem Entry.isArranged : (e : Entry) → e.IsArranged
  | .text key .. | .block key .. => fun path line column _ =>
      arranged_key key path line column _ (by omega)
  | .nested key before indent node after =>
      Entry.isArranged_nested node.isArranged key before indent after
  | .level key before items after => Entry.isArranged_level items.isArranged key before after

theorem Entries.isArranged : (es : Entries) → es.IsArranged
  | .last e => Entries.isArranged_last e.isArranged
  | .more e rest => Entries.isArranged_more e.isArranged rest.isArranged

theorem Item.isArranged : (item : Item) → item.IsArranged
  | .compact space node after => Item.isArranged_compact node.isArranged space after
  | .alone before indent node after => Item.isArranged_alone node.isArranged before indent after

theorem Items.isArranged : (items : Items) → items.IsArranged
  | .last item => Items.isArranged_last item.isArranged
  | .more item rest => Items.isArranged_more item.isArranged rest.isArranged

end

/-! ## What stands at the places -/

/-- What is written for a part: the key and its colon, the dash, or the text. -/
def Part.written : Part → List Char
  | .place path _ =>
    match path.getLast? with
    | some (.key k) => k.text ++ [':']
    | some (.index _) => ['-']
    | none => []
  | .text _ _ q => q.text

/-- A part is written at its place in the lines from a line on. -/
def Part.StandsIn (part : Part) (line : Nat) (lines : List (List Char)) : Prop :=
  ∃ n raw, part.location.line = line + n ∧ lines[n]? = some raw ∧
    part.written <+: raw.drop (part.location.column - 1)

namespace Part.StandsIn

variable {part : Part} {line : Nat} {lines : List (List Char)}

/-- A part stands in its lines whatever lines follow. -/
theorem append (h : part.StandsIn line lines) (more : List (List Char)) :
    part.StandsIn line (lines ++ more) := by
  rcases h with ⟨n, raw, hline, hraw, hwritten⟩
  refine ⟨n, raw, hline, ?_, hwritten⟩
  rw [List.getElem?_append_left (List.getElem?_eq_some_iff.1 hraw).1, hraw]

/-- A part stands in its lines whatever lines come before. -/
theorem after (front : List (List Char)) (h : part.StandsIn (line + front.length) lines) :
    part.StandsIn line (front ++ lines) := by
  rcases h with ⟨n, raw, hline, hraw, hwritten⟩
  refine ⟨front.length + n, raw, by omega, ?_, hwritten⟩
  rw [List.getElem?_append_right (Nat.le_add_right _ _), Nat.add_sub_cancel_left, hraw]

/-- What stands left of the part in its line does not matter. -/
theorem behind {front front' head : List Char} (hlength : front.length = front'.length)
    (hbehind : Precedes ⟨line, front.length⟩ part.location)
    (h : part.StandsIn line ((front ++ head) :: lines)) :
    part.StandsIn line ((front' ++ head) :: lines) := by
  rcases h with ⟨n, raw, hline, hraw, hwritten⟩
  cases n with
  | succ n => exact ⟨n + 1, raw, hline, hraw, hwritten⟩
  | zero =>
      refine ⟨0, _, hline, rfl, ?_⟩
      cases hraw
      have hcolumn : front.length ≤ part.location.column - 1 := by
        simp only [Precedes] at hbehind
        omega
      have hdrop : (front' ++ head).drop (part.location.column - 1) =
          (front ++ head).drop (part.location.column - 1) := by
        rw [List.drop_append, List.drop_append, List.drop_eq_nil_of_le hcolumn,
          List.drop_eq_nil_of_le (hlength ▸ hcolumn), hlength]
      rwa [hdrop]

end Part.StandsIn

/-- The parts of a node are written in its lines, the first of which may have more in front. -/
def Node.Shows (n : Node) : Prop :=
  ∀ (path : Path) (line column : Nat), n.distinct = true →
    ∀ part ∈ n.parts path line column,
      part.StandsIn line ((spaces column ++ n.head) :: n.tail column)

def Entry.Shows (e : Entry) : Prop :=
  ∀ (path : Path) (line column : Nat), e.distinct = true →
    ∀ part ∈ e.parts path line column,
      part.StandsIn line ((spaces column ++ e.head) :: e.tail column)

def Entries.Shows (es : Entries) : Prop :=
  ∀ (path : Path) (line column : Nat), es.distinct = true →
    ∀ part ∈ es.parts path line column,
      part.StandsIn line ((spaces column ++ es.head) :: es.tail column)

def Item.Shows (item : Item) : Prop :=
  ∀ (path : Path) (i line column : Nat), item.distinct = true →
    ∀ part ∈ item.parts path i line column,
      part.StandsIn line ((spaces column ++ item.head) :: item.tail column)

def Items.Shows (items : Items) : Prop :=
  ∀ (path : Path) (i line column : Nat), items.distinct = true →
    ∀ part ∈ items.parts path i line column,
      part.StandsIn line ((spaces column ++ items.head) :: items.tail column)

/-- A part that begins a line after its indentation. -/
theorem standsIn_first {part : Part} {line column : Nat} {head : List Char}
    (hlocation : part.location = ⟨line, column + 1⟩) (hwritten : part.written <+: head)
    (tail : List (List Char)) : part.StandsIn line ((spaces column ++ head) :: tail) := by
  refine ⟨0, _, by rw [hlocation]; rfl, rfl, ?_⟩
  rw [hlocation]
  simpa [spaces] using hwritten

theorem written_key (path : Path) (key : Key) (location : Location) :
    (Part.place (path ++ [.key key]) location).written = key.text ++ [':'] := by
  simp [Part.written]

theorem written_index (path : Path) (i : Nat) (location : Location) :
    (Part.place (path ++ [.index i]) location).written = ['-'] := by
  simp [Part.written]

/-- A tree below the line of a key or a dash. -/
theorem standsIn_below {part : Part} {line : Nat} {raw : List Char} {before after : List Filler}
    {lines : List (List Char)} (h : part.StandsIn (line + 1 + before.length) lines) :
    part.StandsIn line (raw :: (before.map Filler.line ++ lines ++ after.map Filler.line)) := by
  have hlength : (raw :: before.map Filler.line).length = 1 + before.length := by
    simp [Nat.add_comm]
  have hafter : part.StandsIn line (raw :: before.map Filler.line ++ lines) := by
    apply Part.StandsIn.after
    rwa [hlength, ← Nat.add_assoc]
  exact hafter.append (after.map Filler.line)

/-- An entry begins with its key and a colon. -/
theorem Entry.written_head (e : Entry) : e.key.text ++ [':'] <+: e.head := by
  cases e with
  | text key space q after => exact ⟨spaces (space + 1) ++ q.text, by simp [Entry.head, Entry.key]⟩
  | block key space b after =>
      exact ⟨spaces (space + 1) ++ b.header, by simp [Entry.head, Entry.key]⟩
  | nested key before indent node after => exact List.prefix_rfl
  | level key before items after => exact List.prefix_rfl

theorem Entry.shows_key (e : Entry) (path : Path) (line column : Nat) :
    (Part.place (path ++ [.key e.key]) ⟨line, column + 1⟩).StandsIn line
      ((spaces column ++ e.head) :: e.tail column) :=
  standsIn_first rfl (by rw [written_key]; exact e.written_head) _

theorem Entry.shows_nested {node : Node} (hnode : node.Shows) (key : Key) (before : List Filler)
    (indent : Nat) (after : List Filler) : (Entry.nested key before indent node after).Shows := by
  intro path line column hdistinct part hpart
  rcases List.mem_cons.1 hpart with rfl | hpart
  · exact Entry.shows_key (.nested key before indent node after) path line column
  · exact standsIn_below (hnode _ _ _ hdistinct part hpart)

theorem Entry.shows_level {items : Items} (hitems : items.Shows) (key : Key)
    (before after : List Filler) : (Entry.level key before items after).Shows := by
  intro path line column hdistinct part hpart
  rcases List.mem_cons.1 hpart with rfl | hpart
  · exact Entry.shows_key (.level key before items after) path line column
  · exact standsIn_below (hitems _ _ _ _ hdistinct part hpart)

/-- The parts of entries in a row are written in their lines, one after the other. -/
theorem Entries.shows_more {e : Entry} {rest : Entries} (he : e.Shows) (hrest : rest.Shows) :
    (Entries.more e rest).Shows := by
  intro path line column hdistinct part hpart
  simp only [Entries.distinct, Bool.and_eq_true] at hdistinct
  rcases List.mem_append.1 hpart with hpart | hpart
  · exact (he path line column hdistinct.1.1 part hpart).append _
  · refine Part.StandsIn.after ((spaces column ++ e.head) :: e.tail column) ?_
    rw [List.length_cons, Nat.add_comm (e.tail column).length, ← Nat.add_assoc]
    exact hrest path _ column hdistinct.2 part hpart

theorem Item.shows_compact {node : Node} (hnode : node.Shows) (space : Nat)
    (after : List Filler) : (Item.compact space node after).Shows := by
  intro path i line column hdistinct part hpart
  rcases List.mem_cons.1 hpart with rfl | hpart
  · refine standsIn_first rfl ?_ _
    rw [written_index]
    exact List.prefix_append ['-'] _
  · -- the node is written as it would be below the dash, but for what stands in front of it
    have hbehind := (node.isArranged (path ++ [.index i]) line (column + 2 + space)
      hdistinct).behind part hpart
    have hnode := hnode (path ++ [.index i]) line (column + 2 + space) hdistinct part hpart
    have hfront : (spaces (column + 2 + space)).length =
        (spaces column ++ '-' :: spaces (space + 1)).length := by
      simp [spaces]
      omega
    have hline := Part.StandsIn.behind hfront (by simpa [spaces] using hbehind) hnode
    rw [List.append_assoc] at hline
    exact hline.append _

theorem Item.shows_alone {node : Node} (hnode : node.Shows) (before : List Filler) (indent : Nat)
    (after : List Filler) : (Item.alone before indent node after).Shows := by
  intro path i line column hdistinct part hpart
  rcases List.mem_cons.1 hpart with rfl | hpart
  · refine standsIn_first rfl ?_ _
    rw [written_index]
    exact List.prefix_rfl
  · exact standsIn_below (hnode _ _ _ hdistinct part hpart)

/-- The parts of items in a row are written in their lines, one after the other. -/
theorem Items.shows_more {item : Item} {rest : Items} (hitem : item.Shows)
    (hrest : rest.Shows) : (Items.more item rest).Shows := by
  intro path i line column hdistinct part hpart
  simp only [Items.distinct, Bool.and_eq_true] at hdistinct
  rcases List.mem_append.1 hpart with hpart | hpart
  · exact (hitem path i line column hdistinct.1 part hpart).append _
  · refine Part.StandsIn.after ((spaces column ++ item.head) :: item.tail column) ?_
    rw [List.length_cons, Nat.add_comm (item.tail column).length, ← Nat.add_assoc]
    exact hrest path _ _ column hdistinct.2 part hpart

mutual

/-- Every node is written in its lines, by recursion with the entries and items in it. -/
theorem Node.shows : (n : Node) → n.Shows
  | .text q => fun path line column _ part hpart => by
      rw [List.mem_singleton.1 hpart]
      exact standsIn_first rfl List.prefix_rfl []
  | .mapping es => es.shows
  | .sequence items => fun path => items.shows path 0

theorem Entry.shows : (e : Entry) → e.Shows
  | .text key space q after => fun path line column _ part hpart => by
      rw [List.mem_singleton.1 hpart]
      exact Entry.shows_key (.text key space q after) path line column
  | .block key space b after => fun path line column _ part hpart => by
      rw [List.mem_singleton.1 hpart]
      exact Entry.shows_key (.block key space b after) path line column
  | .nested key before indent node after => Entry.shows_nested node.shows key before indent after
  | .level key before items after => Entry.shows_level items.shows key before after

theorem Entries.shows : (es : Entries) → es.Shows
  | .last e => e.shows
  | .more e rest => Entries.shows_more e.shows rest.shows

theorem Item.shows : (item : Item) → item.Shows
  | .compact space node after => Item.shows_compact node.shows space after
  | .alone before indent node after => Item.shows_alone node.shows before indent after

theorem Items.shows : (items : Items) → items.Shows
  | .last item => item.shows
  | .more item rest => Items.shows_more item.shows rest.shows

end

/-! ## Documents -/

namespace Document

variable {d : Document} {path : Path} {location location' : Location} {a b : Part}

theorem arranged (hdistinct : d.root.distinct = true) :
    Arranged (fun q => [] <+: q ∧ q ≠ []) ⟨1 + d.before.length, 0⟩
      (1 + d.before.length + 1 + (d.root.tail 0).length) d.parts :=
  d.root.isArranged [] _ 0 hdistinct

/-- No two parts of a document stand at the same place. -/
theorem location_injective (hdistinct : d.root.distinct = true) (ha : a ∈ d.parts)
    (hb : b ∈ d.parts) (h : a.location = b.location) : a = b := by
  have hnodup : (d.parts.map Part.location).Nodup :=
    List.pairwise_map.2 ((arranged hdistinct).ordered.imp fun h => h.ne)
  exact List.inj_on_of_nodup_map hnodup ha hb h

/-- No path leads to two places. -/
theorem place_injective (hdistinct : d.root.distinct = true)
    (h : .place path location ∈ d.parts) (h' : .place path location' ∈ d.parts) :
    location = location' := by
  have hpairs := List.pairwise_filterMap.1 (arranged hdistinct).distinct
  have hsymm : Std.Symm fun a b : Part => ∀ p ∈ a.path?, ∀ q ∈ b.path?, p ≠ q :=
    ⟨fun a b hab p hp q hq => (hab q hq p hp).symm⟩
  by_contra hne
  have hparts : Part.place path location ≠ .place path location' := fun heq =>
    hne (Part.place.inj heq).2
  exact hpairs.forall h h' hparts path rfl path rfl rfl

/-- Each part is written where its place says. -/
theorem standsIn_lines (hdistinct : d.root.distinct = true) (ha : a ∈ d.parts) :
    a.StandsIn 1 d.lines := by
  have hroot := d.root.shows [] (1 + d.before.length) 0 hdistinct a ha
  rw [spaces, List.replicate_zero, List.nil_append] at hroot
  refine Part.StandsIn.after (d.before.map Filler.line) ?_
  rwa [List.length_map]

theorem path_ne_nil (hdistinct : d.root.distinct = true) (h : .place path location ∈ d.parts) :
    path ≠ [] :=
  ((arranged hdistinct).under path (List.mem_filterMap.2 ⟨_, h, rfl⟩)).2

end Document

end Layout
end Gleaner
