import Gleaner.Proofs.Spec.LineScan
/-!
# The scan of a document in block style

The scan keeps a stack of the keys and items around the place that it has reached, and counts the
items of each sequence. Between the lines of a node the stack is the one from before the node, with
frames on top of it that the next line of the node, or any line further left, takes off again.

* `Part.entered?` is what the scan enters for a part of a document;
* `Before` is the state before an entry or an item, `After` what the scan of some parts has done;
* `Node.scanned` and its siblings, one for each type of tree, say that the scan of the lines enters
  the parts in order; `Document.scanned` carries this to a whole document.
-/

namespace Gleaner
namespace Layout

open Locator (Frame Progress keyPath itemPath)

/-! ## What is entered -/

/-- The key or item, or the key that a text on its own seems to hold, with its place. -/
def Part.entered? : Part → Option (String × Location)
  | .place path location => some (String.ofList (spell path), location)
  | .text path location q =>
    q.imitated?.map fun key => (String.ofList (keyPath (spell path) key), location)

/-- What the scan enters for some parts, in order. -/
def entries (parts : List Part) : List (String × Location) :=
  parts.filterMap Part.entered?

def enter (found : List (String × Location)) (entry : String × Location) :
    List (String × Location) :=
  if found.any fun (p, _) => p == entry.1 then found else entry :: found

theorem entries_append (ps qs : List Part) : entries (ps ++ qs) = entries ps ++ entries qs :=
  List.filterMap_append

theorem entries_cons {part : Part} {entry : String × Location} (h : part.entered? = some entry)
    (parts : List Part) : entries (part :: parts) = entry :: entries parts :=
  List.filterMap_cons_some h

theorem enter_eq (o : Progress) (path : List Char) (location : Location) :
    o.enter path location = { o with found := enter o.found (String.ofList path, location) } := by
  unfold Progress.enter enter
  simp only
  split
  · rfl
  · rfl

/-! ## The stack -/

def parentOf (base : List Frame) : List Char :=
  (base.head?.map (·.path)).getD []

/-- The frames that an item in a column takes off the stack. -/
def Covers (column : Nat) (f : Frame) : Prop :=
  column < f.indent ∨ f.indent = column ∧ f.isItem = true

/-- The new frames on top of the stack are taken off, down to the base. -/
theorem dropWhile_append {p : Frame → Bool} {new base : List Frame} (hnew : ∀ f ∈ new, p f = true)
    (hbase : ∀ f ∈ base.head?, p f = false) : (new ++ base).dropWhile p = base := by
  rw [List.dropWhile_append_of_pos hnew]
  cases base with
  | nil => rfl
  | cons f base =>
      rw [List.dropWhile_cons_of_neg]
      simp [hbase f rfl]

/--
The state before the text of a line with an entry or an item of the node at a path: the frames above
the base are taken off by it, and the base belongs to the node.
-/
structure Before (covers : Frame → Prop) (base : List Frame) (path : Path) (o : Progress) :
    Prop where
  stack : ∃ new, o.stack = new ++ base ∧ ∀ f ∈ new, covers f
  stops : ∀ f ∈ base.head?, ¬ covers f
  parent : parentOf base = spell path
  block : o.block = none

variable {o : Progress} {base : List Frame} {path : Path} {line column : Nat}

/-- Right below a key or a dash, its frame is the innermost one. -/
theorem Before.top {covers : Frame → Prop} {f : Frame} (hstack : o.stack = f :: base)
    (hframe : ¬ covers f) (hpath : f.path = spell path) (hblock : o.block = none) :
    Before covers (f :: base) path o where
  stack := ⟨[], hstack, nofun⟩
  stops := by
    rintro g ⟨⟩
    exact hframe
  parent := hpath
  block := hblock

/-- A key goes on top of the base, and is entered; a block of text may begin at it. -/
theorem key_eq (h : Before (fun f => column ≤ f.indent) base path o) (key value : List Char) :
    o.key line column key value =
      { found := enter o.found (String.ofList (keyPath (spell path) key), ⟨line, column + 1⟩)
        stack := ⟨column, keyPath (spell path) key, false⟩ :: base
        counts := o.counts
        block := if value.head? == some '|' || value.head? == some '>' then some column
          else none } := by
  rcases h.stack with ⟨new, hstack, hnew⟩
  have hdrop : o.stack.dropWhile (fun f => column ≤ f.indent) = base := by
    rw [hstack]
    exact dropWhile_append (by simpa using hnew) (by simpa using h.stops)
  have hparent : (Option.map (·.path) base.head?).getD [] = spell path := h.parent
  unfold Progress.key
  simp only [hdrop, enter_eq, Progress.parent, hparent, h.block]

/-- A dash goes on top of the base, is counted, and is entered. -/
theorem item_eq (h : Before (Covers column) base path o) :
    o.item line column =
      { found := enter o.found
          (String.ofList (itemPath (spell path) (o.count (spell path))), ⟨line, column + 1⟩)
        stack := ⟨column, itemPath (spell path) (o.count (spell path)), true⟩ :: base
        counts := (spell path, o.count (spell path) + 1) :: o.counts
        block := none } := by
  rcases h.stack with ⟨new, hstack, hnew⟩
  have hdrop : o.stack.dropWhile (fun f => column < f.indent || (f.indent == column && f.isItem)) =
      base := by
    rw [hstack]
    exact dropWhile_append (by simpa [Covers] using hnew) (by simpa [Covers] using h.stops)
  have hparent : (Option.map (·.path) base.head?).getD [] = spell path := h.parent
  unfold Progress.item
  simp only [hdrop, enter_eq, Progress.parent, hparent, h.block]
  rfl

/-! ## The beginnings of lines -/

/-- The text of a node can begin a line. -/
theorem starts_text (q : Quoted) : Starts q.text := by
  refine ⟨⟨?_, ?_⟩, ?_⟩
  · rintro c ⟨⟩
    decide
  · intro c hc
    rw [Quoted.text, List.getLast?_append] at hc
    cases hc
    decide
  · rfl

/-- A key can begin a line, with what stands behind it. -/
theorem starts_key (key : Key) {rest : List Char} (hne : rest ≠ [])
    (hlast : ∀ c ∈ rest.getLast?, Text.isBlank c = false) : Starts (key.text ++ rest) := by
  rcases key.exists_cons with ⟨c, cs, htext, hname⟩
  have hc := hname c List.mem_cons_self
  rw [htext]
  refine ⟨⟨?_, ?_⟩, ?_⟩
  · rintro d ⟨⟩
    exact Text.isBlank_of_isNameChar hc
  · intro d hd
    rw [List.getLast?_append_of_ne_nil _ hne] at hd
    exact hlast d hd
  · have hcomment : c ≠ '#' := by
      rintro rfl
      exact absurd hc (by decide)
    have hmark : c ≠ '-' := by
      rintro rfl
      exact absurd hc (by decide)
    simp [Locator.isSkipped, hcomment, hmark]

/-- The header of a block has no blank in it. -/
theorem Block.not_blank (b : Block) : ∀ c ∈ b.header, Text.isBlank c = false := by
  intro c hc
  rcases List.mem_cons.1 hc with rfl | hc
  · decide
  · have hindicator := List.all_eq_true.1 b.allowed c hc
    simp only [isIndicator, Bool.or_eq_true, beq_iff_eq] at hindicator
    rcases hindicator with (rfl | rfl) | hdigit
    · decide
    · decide
    · have hcode := Text.toNat_of_isDigit hdigit
      exact Text.isBlank_eq_false (by omega) (by omega)

theorem Block.bare (b : Block) : Text.Bare b.header :=
  ⟨fun c hc => b.not_blank c (List.mem_of_mem_head? hc),
    fun c hc => b.not_blank c (List.mem_of_mem_getLast? hc)⟩

/-- The line of a key ends in its colon, in a quote, or in the header of a block. -/
theorem Entry.starts (e : Entry) : Starts e.head := by
  cases e with
  | text key space q after =>
      rw [Entry.head, List.append_assoc]
      refine starts_key key (List.cons_ne_nil _ _) fun c hc => ?_
      rw [Quoted.text, ← List.append_assoc, List.getLast?_append] at hc
      cases hc
      decide
  | block key space b after =>
      rw [Entry.head, List.append_assoc]
      refine starts_key key (List.cons_ne_nil _ _) fun c hc => ?_
      rw [Block.header, List.getLast?_append_of_ne_nil _ (List.cons_ne_nil _ _)] at hc
      exact b.not_blank c (List.mem_of_mem_getLast? hc)
  | nested key before indent node after =>
      refine starts_key key (List.cons_ne_nil _ _) ?_
      rintro c ⟨⟩
      decide
  | level key before items after =>
      refine starts_key key (List.cons_ne_nil _ _) ?_
      rintro c ⟨⟩
      decide

theorem Entries.starts (es : Entries) : Starts es.head := by
  cases es with
  | last e => exact e.starts
  | more e rest => exact e.starts

/-- A dash can begin a line, with what stands behind it. -/
theorem starts_compact {head : List Char} (h : Starts head) (space : Nat) :
    Starts ('-' :: spaces (space + 1) ++ head) := by
  refine ⟨⟨?_, ?_⟩, ?_⟩
  · rintro c ⟨⟩
    decide
  · intro c hc
    rw [List.getLast?_append_of_ne_nil _ h.ne_nil] at hc
    exact h.bare.last c hc
  · simp [Locator.isSkipped, spaces, List.replicate_succ]

theorem starts_dash : Starts ['-'] := by
  refine ⟨⟨?_, ?_⟩, rfl⟩
  · rintro c ⟨⟩
    decide
  · rintro c ⟨⟩
    decide

mutual

theorem Node.starts : (n : Node) → Starts n.head
  | .text q => starts_text q
  | .mapping es => es.starts
  | .sequence items => items.starts

theorem Item.starts : (item : Item) → Starts item.head
  | .compact space node _ => starts_compact node.starts space
  | .alone .. => starts_dash

theorem Items.starts : (items : Items) → Starts items.head
  | .last item => item.starts
  | .more item _ => item.starts

end

/-! ## The state after some lines -/

/--
What the scan of some parts has done: they were entered in order, only the sequences that it touched
were counted, and above the base there are frames that the next line takes off. A block of text can
still be open, but not for a line as far left as the column.
-/
structure After (covers : Frame → Prop) (column : Nat) (base : List Frame) (touched : Path → Prop)
    (parts : List Part) (o o' : Progress) : Prop where
  found : o'.found = (entries parts).foldl enter o.found
  counts : ∀ q, ¬ touched q → o'.count (spell q) = o.count (spell q)
  stack : ∃ new, o'.stack = new ++ base ∧ ∀ f ∈ new, covers f
  block : ∀ owner ∈ o'.block, column ≤ owner

namespace After

variable {covers covers' : Frame → Prop} {column' : Nat} {touched touched' : Path → Prop}
  {parts more : List Part} {o₁ o₂ : Progress}

/-- A key, an item or a text that is taken for a key, with no lines below it. -/
theorem single {f : Frame} {part : Part} {entry : String × Location}
    (hpart : part.entered? = some entry) (hfound : o₁.found = enter o.found entry)
    (hcounts : o₁.counts = o.counts) (hstack : o₁.stack = f :: base) (hframe : covers f)
    (hblock : ∀ owner ∈ o₁.block, column ≤ owner) :
    After covers column base touched [part] o o₁ where
  found := by rw [hfound, entries_cons hpart]; rfl
  counts q _ := by rw [Progress.count, Progress.count, hcounts]
  stack := ⟨[f], hstack, by simpa using hframe⟩
  block := hblock

/-- One line or node after another. -/
theorem trans (h : After covers column base touched parts o o₁)
    (h' : After covers column base touched' more o₁ o₂) :
    After covers column base (fun q => touched q ∨ touched' q) (parts ++ more) o o₂ where
  found := by rw [h'.found, h.found, entries_append, List.foldl_append]
  counts q hq := by
    obtain ⟨hq, hq'⟩ := not_or.1 hq
    rw [h'.counts q hq', h.counts q hq]
  stack := h'.stack
  block := h'.block

/-- A scan that touches fewer paths touches more. -/
theorem mono (h : After covers column base touched parts o o₁)
    (htouched : ∀ q, touched q → touched' q) : After covers column base touched' parts o o₁ where
  found := h.found
  counts q hq := h.counts q (mt (htouched q) hq)
  stack := h.stack
  block := h.block

/-- A block that is closed leaves nothing open for later lines. -/
theorem closed (h : After covers column base touched parts o o₁) :
    After covers column base touched parts o { o₁ with block := none } where
  found := h.found
  counts := h.counts
  stack := h.stack
  block := nofun

/-- Blank lines and comments behind a node change nothing. -/
theorem fillers (h : After covers column base touched parts o o₁) (number : Nat)
    (fs : List Filler) :
    After covers column base touched parts o (Progress.scan number (fs.map Filler.line) o₁) := by
  rcases scan_fillers o₁ number fs with heq | heq
  · rw [heq]
    exact h
  · rw [heq]
    exact h.closed

/-- A node further right, below the key or dash of which the frame is on top of the base. -/
theorem outward {f : Frame} {part : Part} {entry : String × Location}
    (h : After covers' column' (f :: base) touched parts o₁ o₂) (hpart : part.entered? = some entry)
    (hfound : o₁.found = enter o.found entry)
    (hcounts : ∀ q, ¬ touched q → o₁.count (spell q) = o.count (spell q)) (hframe : covers f)
    (hcovers : ∀ g, covers' g → covers g) (hcolumn : column ≤ column') :
    After covers column base touched (part :: parts) o o₂ where
  found := by rw [h.found, hfound, entries_cons hpart, List.foldl_cons]
  counts q hq := by rw [h.counts q hq, hcounts q hq]
  stack := by
    rcases h.stack with ⟨new, hstack, hnew⟩
    refine ⟨new ++ [f], by rw [hstack]; simp, fun g hg => ?_⟩
    rcases List.mem_append.1 hg with hg | hg
    · exact hcovers g (hnew g hg)
    · rw [List.mem_singleton.1 hg]
      exact hframe
  block owner howner := Nat.le_trans hcolumn (h.block owner howner)

end After

/-! ## The scan of trees -/

/-- Nothing is counted yet for the paths that are touched. -/
def Fresh (touched : Path → Prop) (o : Progress) : Prop :=
  ∀ q, touched q → o.count (spell q) = 0

/-- The lines below a key or a dash: those before a node, the node, and those after it. -/
theorem scan_below {head : List Char} (hhead : Starts head) (hblock : o.block = none)
    (number column : Nat) (before after : List Filler) (tail : List (List Char)) :
    Progress.scan number (before.map Filler.line ++ (spaces column ++ head) :: tail ++
        after.map Filler.line) o =
      Progress.scan (number + (before.map Filler.line ++ (spaces column ++ head) :: tail).length)
        (after.map Filler.line) (run (number + before.length) column head tail o) := by
  rw [scan_append, scan_append, scan_fillers_of_none hblock, List.length_map, scan_line hhead]
  · rw [← hblock]
  · rw [hblock]
    nofun

/-- The scan of a node that begins right above the base enters its parts. -/
def Node.Scans (n : Node) : Prop :=
  ∀ (o : Progress) (base : List Frame) (path : Path) (line column : Nat), n.distinct = true →
    o.stack = base → Before (fun f => column ≤ f.indent) base path o → Fresh (path <+: ·) o →
      After (fun f => column ≤ f.indent) column base (path <+: ·) (n.parts path line column) o
        (run line column n.head (n.tail column) o)

def Entry.Scans (e : Entry) : Prop :=
  ∀ (o : Progress) (base : List Frame) (path : Path) (line column : Nat), e.distinct = true →
    Before (fun f => column ≤ f.indent) base path o → Fresh (path ++ [.key e.key] <+: ·) o →
      After (fun f => column ≤ f.indent) column base (path ++ [.key e.key] <+: ·)
        (e.parts path line column) o (run line column e.head (e.tail column) o)

def Entries.Scans (es : Entries) : Prop :=
  ∀ (o : Progress) (base : List Frame) (path : Path) (line column : Nat), es.distinct = true →
    Before (fun f => column ≤ f.indent) base path o →
      Fresh (fun q => ∃ k ∈ es.keys, path ++ [.key k] <+: q) o →
        After (fun f => column ≤ f.indent) column base
          (fun q => ∃ k ∈ es.keys, path ++ [.key k] <+: q) (es.parts path line column) o
            (run line column es.head (es.tail column) o)

/-- The item has the number of those before it. -/
def Item.Scans (item : Item) : Prop :=
  ∀ (o : Progress) (base : List Frame) (path : Path) (i line column : Nat),
    item.distinct = true → Before (Covers column) base path o → o.count (spell path) = i →
      Fresh (path ++ [.index i] <+: ·) o →
        After (Covers column) column base (fun q => q = path ∨ path ++ [.index i] <+: q)
          (item.parts path i line column) o (run line column item.head (item.tail column) o) ∧
        (run line column item.head (item.tail column) o).count (spell path) = i + 1

def Items.Scans (items : Items) : Prop :=
  ∀ (o : Progress) (base : List Frame) (path : Path) (i line column : Nat),
    items.distinct = true → Before (Covers column) base path o → o.count (spell path) = i →
      (∀ j, i ≤ j → Fresh (path ++ [.index j] <+: ·) o) →
        After (Covers column) column base (path <+: ·) (items.parts path i line column) o
          (run line column items.head (items.tail column) o)

/-! ### Nodes -/

/-- A text on its own enters the key it seems to hold, or nothing. -/
theorem Node.scans_text (q : Quoted) : (Node.text q).Scans := by
  intro o base path line column hdistinct hstack hbefore hfresh
  rw [Node.head, Node.tail, Node.parts]
  cases hkey : q.imitated? with
  | none =>
      rw [(run_text q).1 hkey]
      refine ⟨?_, fun _ _ => rfl, hbefore.stack, by rw [hbefore.block]; nofun⟩
      simp [entries, Part.entered?, hkey]
  | some key =>
      rcases (run_text q).2 key hkey with ⟨value, hrun⟩
      rw [hrun, key_eq hbefore]
      refine .single (by simp [Part.entered?, hkey]) rfl rfl rfl (Nat.le_refl column) ?_
      intro owner howner
      simp only at howner
      split at howner
      · cases howner
        exact Nat.le_refl column
      · cases howner

theorem Node.scans_mapping {es : Entries} (hes : es.Scans) : (Node.mapping es).Scans := by
  intro o base path line column hdistinct hstack hbefore hfresh
  have hunder : ∀ q, (∃ k ∈ es.keys, path ++ [Step.key k] <+: q) → path <+: q := by
    rintro q ⟨k, -, hq⟩
    exact (List.prefix_append path _).trans hq
  refine (hes o base path line column hdistinct hbefore ?_).mono hunder
  intro q hq
  exact hfresh q (hunder q hq)

theorem Node.scans_sequence {items : Items} (hitems : items.Scans) :
    (Node.sequence items).Scans := by
  intro o base path line column hdistinct hstack hbefore hfresh
  -- the node begins right above the base, so a dash takes no frame off that a key would leave
  have hdash : Before (Covers column) base path o := by
    refine ⟨⟨[], hstack, nofun⟩, fun f hf hcovers => hbefore.stops f hf ?_, hbefore.parent,
      hbefore.block⟩
    rcases hcovers with hdeeper | ⟨hlevel, -⟩
    · exact Nat.le_of_lt hdeeper
    · exact Nat.le_of_eq hlevel.symm
  have hscan := hitems o base path 0 line column hdistinct hdash (hfresh path List.prefix_rfl)
    fun j _ q hq => hfresh q ((List.prefix_append path _).trans hq)
  refine ⟨hscan.found, hscan.counts, ?_, hscan.block⟩
  rcases hscan.stack with ⟨new, hnew, hcovers⟩
  refine ⟨new, hnew, fun f hf => ?_⟩
  rcases hcovers f hf with hdeeper | ⟨hlevel, -⟩
  · exact Nat.le_of_lt hdeeper
  · exact Nat.le_of_eq hlevel.symm

/-! ### Entries -/

/-- The state after a key at a path, where a block of text may be open. -/
def keyed (o : Progress) (base : List Frame) (path : Path) (line column : Nat)
    (block : Option Nat) : Progress :=
  { found := enter o.found (String.ofList (spell path), ⟨line, column + 1⟩)
    stack := ⟨column, spell path, false⟩ :: base
    counts := o.counts
    block := block }

theorem key_eq_keyed (h : Before (fun f => column ≤ f.indent) base path o) (key : Key)
    {value : List Char} {block : Option Nat}
    (hblock : (if value.head? == some '|' || value.head? == some '>' then some column else none) =
      block) :
    o.key line column key.text value = keyed o base (path ++ [.key key]) line column block := by
  rw [key_eq h, keyed, spell_key, hblock]

theorem after_keyed (o : Progress) (base : List Frame) (path : Path) (line column : Nat)
    {block : Option Nat} (hblock : ∀ owner ∈ block, column ≤ owner) (touched : Path → Prop) :
    After (fun f => column ≤ f.indent) column base touched [.place path ⟨line, column + 1⟩] o
      (keyed o base path line column block) :=
  .single rfl rfl rfl rfl (Nat.le_refl column) hblock

/-- The frame of a key is left on the stack by what stands further right, or is an item. -/
theorem before_keyed {covers : Frame → Prop} (hcovers : ¬ covers ⟨column, spell path, false⟩) :
    Before covers (⟨column, spell path, false⟩ :: base) path
      (keyed o base path line column none) :=
  .top rfl hcovers rfl rfl

theorem fresh_keyed {touched : Path → Prop} (h : Fresh touched o) :
    Fresh touched (keyed o base path line column none) :=
  fun q hq => h q hq

/-- A key with its text is entered, and the text is not. -/
theorem Entry.scans_text (key : Key) (space : Nat) (q : Quoted) (after : List Filler) :
    (Entry.text key space q after).Scans := by
  intro o base path line column hdistinct hbefore hfresh
  have hvalue : Text.trim (spaces (space + 1) ++ q.text) = q.text :=
    trim_spaces (starts_text q).bare _
  have hkey : o.key line column key.text q.text =
      keyed o base (path ++ [.key key]) line column none := key_eq_keyed hbefore key rfl
  have hclosed : ∀ owner ∈ (none : Option Nat), column ≤ owner := nofun
  rw [Entry.head, List.append_assoc, List.cons_append, run_key key (by rintro c ⟨⟩; rfl), hvalue,
    hkey]
  exact (after_keyed o base _ line column hclosed _).fillers _ after

/-- A key with a block is entered, and the lines of the block are passed over. -/
theorem Entry.scans_block (key : Key) (space : Nat) (b : Block) (after : List Filler) :
    (Entry.block key space b after).Scans := by
  intro o base path line column hdistinct hbefore hfresh
  have hvalue : Text.trim (spaces (space + 1) ++ b.header) = b.header :=
    trim_spaces b.bare _
  have hkey : o.key line column key.text b.header =
      keyed o base (path ++ [.key key]) line column (some column) := key_eq_keyed hbefore key rfl
  have hopen : ∀ owner ∈ some column, column ≤ owner := by
    rintro owner ⟨⟩
    exact Nat.le_refl column
  rw [Entry.head, List.append_assoc, List.cons_append, run_key key (by rintro c ⟨⟩; rfl), hvalue,
    hkey, Entry.tail, scan_append, scan_content rfl]
  exact (after_keyed o base _ line column hopen _).fillers _ after

/-- A key with a node below it is entered before the node's parts. -/
theorem Entry.scans_nested {node : Node} (hnode : node.Scans) (key : Key) (before : List Filler)
    (indent : Nat) (after : List Filler) : (Entry.nested key before indent node after).Scans := by
  intro o base path line column hdistinct hbefore hfresh
  have hdeeper : ¬ column + 1 + indent ≤ column := by omega
  have hkey : o.key line column key.text [] =
      keyed o base (path ++ [.key key]) line column none := key_eq_keyed hbefore key rfl
  rw [Entry.head, run_key_alone, hkey, Entry.tail, scan_below node.starts rfl]
  -- the node stands further right, so a later key takes all of its frames off
  have hscan := hnode (keyed o base (path ++ [.key key]) line column none) _ _
    (line + 1 + before.length) (column + 1 + indent) hdistinct rfl (before_keyed hdeeper)
    (fresh_keyed hfresh)
  refine (hscan.outward rfl rfl (fun _ _ => rfl) (Nat.le_refl column) ?_ (by omega)).fillers _ after
  intro f hf
  exact Nat.le_trans (by omega) hf

/-- A key is entered before the items below it, which stand in the key's own column. -/
theorem Entry.scans_level {items : Items} (hitems : items.Scans) (key : Key)
    (before after : List Filler) : (Entry.level key before items after).Scans := by
  intro o base path line column hdistinct hbefore hfresh
  have hkept : ¬ Covers column ⟨column, spell (path ++ [.key key]), false⟩ := by
    simp [Covers]
  have hkey : o.key line column key.text [] =
      keyed o base (path ++ [.key key]) line column none := key_eq_keyed hbefore key rfl
  rw [Entry.head, run_key_alone, hkey, Entry.tail, scan_below items.starts rfl]
  have hscan := hitems (keyed o base (path ++ [.key key]) line column none) _ _ 0
    (line + 1 + before.length) column hdistinct (before_keyed hkept)
    (hfresh _ List.prefix_rfl) fun j _ q hq => hfresh q ((List.prefix_append _ _).trans hq)
  refine After.fillers (hscan.outward rfl rfl (fun _ _ => rfl) (Nat.le_refl column) ?_
    (Nat.le_refl column)) _ after
  rintro f (hdeeper | ⟨hlevel, -⟩)
  · exact Nat.le_of_lt hdeeper
  · exact Nat.le_of_eq hlevel.symm

theorem Entries.scans_last {e : Entry} (he : e.Scans) : (Entries.last e).Scans := by
  intro o base path line column hdistinct hbefore hfresh
  have htouched : ∀ q, (∃ k ∈ (Entries.last e).keys, path ++ [Step.key k] <+: q) ↔
      path ++ [.key e.key] <+: q := by
    simp [Entries.keys]
  refine (he o base path line column hdistinct hbefore ?_).mono fun q => (htouched q).2
  intro q hq
  exact hfresh q ((htouched q).2 hq)

/-- Entries in a row are entered in order: each leaves the stack as the next one needs it. -/
theorem Entries.scans_more {e : Entry} {rest : Entries} (he : e.Scans) (hrest : rest.Scans) :
    (Entries.more e rest).Scans := by
  intro o base path line column hdistinct hbefore hfresh
  simp only [Entries.distinct, Bool.and_eq_true, decide_eq_true_eq] at hdistinct
  obtain ⟨⟨hfirst, hnew⟩, hothers⟩ := hdistinct
  have hentry := he o base path line column hfirst hbefore fun q hq =>
    hfresh q ⟨e.key, List.mem_cons_self, hq⟩
  rw [Entries.head, Entries.tail, run_append, scan_line rest.starts hentry.block]
  have hclosed := hentry.closed
  have hbefore' : Before (fun f => column ≤ f.indent) base path
      { run line column e.head (e.tail column) o with block := none } :=
    ⟨hclosed.stack, hbefore.stops, hbefore.parent, rfl⟩
  -- the paths below another key were not touched by the first entry
  have hfresh' : Fresh (fun q => ∃ k ∈ rest.keys, path ++ [.key k] <+: q)
      { run line column e.head (e.tail column) o with block := none } := by
    rintro q ⟨k, hk, hq⟩
    have hother : ¬ path ++ [.key e.key] <+: q := by
      intro hq'
      have hkeys := eq_of_prefix_concat hq hq'
      cases hkeys
      exact hnew hk
    rw [hclosed.counts q hother]
    exact hfresh q ⟨k, List.mem_cons_of_mem _ hk, hq⟩
  have hscan := hrest _ base path (line + 1 + (e.tail column).length) column hothers hbefore'
    hfresh'
  refine (hclosed.trans hscan).mono ?_
  rintro q (hq | ⟨k, hk, hq⟩)
  · exact ⟨e.key, List.mem_cons_self, hq⟩
  · exact ⟨k, List.mem_cons_of_mem _ hk, hq⟩

/-! ### Items -/

/-- The state after a dash at a path that ends in an index. -/
def dashed (o : Progress) (base : List Frame) (path : Path) (i line column : Nat) : Progress :=
  { found := enter o.found (String.ofList (spell (path ++ [.index i])), ⟨line, column + 1⟩)
    stack := ⟨column, spell (path ++ [.index i]), true⟩ :: base
    counts := (spell path, i + 1) :: o.counts
    block := none }

theorem item_eq_dashed (h : Before (Covers column) base path o) {i : Nat}
    (hcount : o.count (spell path) = i) :
    o.item line column = dashed o base path i line column := by
  rw [item_eq h, hcount, dashed, spell_index]

/-- A dash counts for its sequence, and for no other one. -/
theorem count_dashed (o : Progress) (base : List Frame) (path q : Path) (i line column : Nat) :
    (dashed o base path i line column).count (spell q) =
      if q = path then i + 1 else o.count (spell q) := by
  unfold Progress.count dashed
  by_cases hq : q = path
  · simp [hq]
  · have hspell : spell path ≠ spell q := fun h => hq (spell_injective h).symm
    simp [hq, hspell]

/-- A node further right than its dash. -/
theorem Node.Scans.after_dash {node : Node} (hnode : node.Scans) {i column' : Nat}
    (hdistinct : node.distinct = true) (hcolumn : column < column')
    (hfresh : Fresh (path ++ [.index i] <+: ·) o) (line line' : Nat) :
    let o' := run line' column' node.head (node.tail column') (dashed o base path i line column)
    After (Covers column) column base (fun q => q = path ∨ path ++ [.index i] <+: q)
        (.place (path ++ [.index i]) ⟨line, column + 1⟩ ::
          node.parts (path ++ [.index i]) line' column') o o' ∧
      o'.count (spell path) = i + 1 := by
  intro o'
  have hdeeper : ¬ column' ≤ column := by omega
  have hself : ¬ path ++ [.index i] <+: path := fun h => absurd h.length_le (by simp)
  have hfresh' : Fresh (path ++ [.index i] <+: ·) (dashed o base path i line column) := by
    intro q hq
    have hne : q ≠ path := by
      rintro rfl
      exact hself hq
    rw [count_dashed, if_neg hne]
    exact hfresh q hq
  -- the node counts nothing for the path of the sequence, so the dash alone does
  have hscan := hnode (dashed o base path i line column) _ _ line' column' hdistinct rfl
    (.top rfl hdeeper rfl rfl) hfresh'
  constructor
  · refine .outward (hscan.mono fun q hq => .inr hq) rfl rfl ?_ (.inr ⟨rfl, rfl⟩) ?_
      (Nat.le_of_lt hcolumn)
    · intro q hq
      rw [count_dashed, if_neg fun heq => hq (.inl heq)]
    · intro f hf
      exact .inl (Nat.lt_of_lt_of_le hcolumn hf)
  · rw [hscan.counts path hself, count_dashed, if_pos rfl]

/-- The lines after an item count for no sequence. -/
theorem fillers_counted {touched : Path → Prop} {parts : List Part} {o₁ : Progress} {i : Nat}
    (h : After (Covers column) column base touched parts o o₁ ∧ o₁.count (spell path) = i + 1)
    (number : Nat) (fs : List Filler) :
    After (Covers column) column base touched parts o
        (Progress.scan number (fs.map Filler.line) o₁) ∧
      (Progress.scan number (fs.map Filler.line) o₁).count (spell path) = i + 1 := by
  refine ⟨h.1.fillers number fs, ?_⟩
  rcases scan_fillers o₁ number fs with heq | heq
  · rw [heq]
    exact h.2
  · rw [heq]
    exact h.2

theorem Item.scans_compact {node : Node} (hnode : node.Scans) (space : Nat)
    (after : List Filler) : (Item.compact space node after).Scans := by
  intro o base path i line column hdistinct hbefore hcount hfresh
  rw [Item.head, Item.tail, run_append, run_compact node.starts, item_eq_dashed hbefore hcount]
  exact fillers_counted (hnode.after_dash hdistinct (by omega) hfresh line line) _ after

theorem Item.scans_alone {node : Node} (hnode : node.Scans) (before : List Filler) (indent : Nat)
    (after : List Filler) : (Item.alone before indent node after).Scans := by
  intro o base path i line column hdistinct hbefore hcount hfresh
  rw [Item.head, Item.tail, run_dash, item_eq_dashed hbefore hcount, scan_below node.starts rfl]
  exact fillers_counted (hnode.after_dash hdistinct (by omega) hfresh line _) _ after

theorem Items.scans_last {item : Item} (hitem : item.Scans) : (Items.last item).Scans := by
  intro o base path i line column hdistinct hbefore hcount hfresh
  obtain ⟨hscan, -⟩ := hitem o base path i line column hdistinct hbefore hcount
    (hfresh i (Nat.le_refl i))
  refine hscan.mono ?_
  rintro q (rfl | hq)
  · exact List.prefix_rfl
  · exact (List.prefix_append path _).trans hq

/-- Items in a row are entered in order: each leaves the count as the next one needs it. -/
theorem Items.scans_more {item : Item} {rest : Items} (hitem : item.Scans)
    (hrest : rest.Scans) : (Items.more item rest).Scans := by
  intro o base path i line column hdistinct hbefore hcount hfresh
  simp only [Items.distinct, Bool.and_eq_true] at hdistinct
  obtain ⟨hfirst, hnext⟩ := hitem o base path i line column hdistinct.1 hbefore hcount
    (hfresh i (Nat.le_refl i))
  rw [Items.head, Items.tail, run_append, scan_line rest.starts hfirst.block]
  have hclosed := hfirst.closed
  have hbefore' : Before (Covers column) base path
      { run line column item.head (item.tail column) o with block := none } :=
    ⟨hclosed.stack, hbefore.stops, hbefore.parent, rfl⟩
  -- the paths below a later index were not touched by the first item
  have hfresh' : ∀ j, i + 1 ≤ j → Fresh (path ++ [.index j] <+: ·)
      { run line column item.head (item.tail column) o with block := none } := by
    intro j hj q hq
    have hother : ¬ (q = path ∨ path ++ [.index i] <+: q) := by
      rintro (rfl | hq')
      · exact absurd hq.length_le (by simp)
      · have hindices := eq_of_prefix_concat hq hq'
        cases hindices
        omega
    rw [hclosed.counts q hother]
    exact hfresh j (by omega) q hq
  have hscan := hrest _ base path (i + 1) (line + 1 + (item.tail column).length) column hdistinct.2
    hbefore' hnext hfresh'
  refine (hclosed.trans hscan).mono ?_
  rintro q ((rfl | hq) | hq)
  · exact List.prefix_rfl
  · exact (List.prefix_append path _).trans hq
  · exact hq

/-! ### Trees -/

mutual

theorem Node.scans : (n : Node) → n.Scans
  | .text q => Node.scans_text q
  | .mapping es => Node.scans_mapping es.scans
  | .sequence items => Node.scans_sequence items.scans

/-- Every entry is scanned into its parts, by recursion with the nodes and items in it. -/
theorem Entry.scans : (e : Entry) → e.Scans
  | .text key space q after => Entry.scans_text key space q after
  | .block key space b after => Entry.scans_block key space b after
  | .nested key before indent node after => Entry.scans_nested node.scans key before indent after
  | .level key before items after => Entry.scans_level items.scans key before after

theorem Entries.scans : (es : Entries) → es.Scans
  | .last e => Entries.scans_last e.scans
  | .more e rest => Entries.scans_more e.scans rest.scans

theorem Item.scans : (item : Item) → item.Scans
  | .compact space node after => Item.scans_compact node.scans space after
  | .alone before indent node after => Item.scans_alone node.scans before indent after

theorem Items.scans : (items : Items) → items.Scans
  | .last item => Items.scans_last item.scans
  | .more item rest => Items.scans_more item.scans rest.scans

end

/--
The scan of a document enters its keys and items in order, and besides them nothing but the keys
that texts on their own seem to hold. No line of a block of text enters anything.
-/
theorem Document.scanned (d : Document) (hdistinct : d.root.distinct = true) :
    (Progress.scan 1 d.lines .start).found = (entries d.parts).foldl enter [] := by
  have hstart : Before (fun f => 0 ≤ f.indent) [] [] .start := ⟨⟨[], rfl, nofun⟩, nofun, rfl, rfl⟩
  have hfresh : Fresh ([] <+: ·) .start := fun _ _ => rfl
  have hroot := d.root.scans .start [] [] (1 + d.before.length) 0 hdistinct rfl hstart hfresh
  have hclosed : ∀ owner ∈ Progress.start.block, 0 ≤ owner := nofun
  have hline : Progress.scan (1 + d.before.length) ((spaces 0 ++ d.root.head) :: d.root.tail 0)
      .start = run (1 + d.before.length) 0 d.root.head (d.root.tail 0) .start :=
    scan_line d.root.starts hclosed (d.root.tail 0)
  rw [spaces, List.replicate_zero, List.nil_append] at hline
  rw [Document.lines, scan_append, scan_fillers_of_none rfl, List.length_map, hline, hroot.found]
  rfl

end Layout
end Gleaner
