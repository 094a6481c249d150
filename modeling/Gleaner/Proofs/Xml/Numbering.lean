import Gleaner.Xml.Document
import Mathlib
/-!
# The places of attributes in a document

In document order the attributes of an element follow it at once, after the prefixes in force at it
and before its children. The number of an attribute therefore lies close behind that of its element.

* `Outline.content?_leaf`, `Outline.parent?_leaf`: what a new node changes in an outline;
* `Attached` nodes are in such a place, `Arranged` outlines have all their attributes there, and
  `arranged_number` says that numbering a tree keeps it so, by recursion on the tree;
* `owner_le`, `content_owner_ne_attr` and `owner_le_owner_iff` say what this means for the element
  that stands for an attribute.
-/

namespace Gleaner

namespace Outline

variable {α : Type} {o : Outline α} {holder n m : Nat} {content : α}

@[simp] theorem size_leaf : (o.leaf holder content).size = o.size + 1 := by
  simp [leaf, size]

@[simp] theorem size_close : (o.close m).size = o.size := by
  simp [close, size]

theorem getElem?_leaf :
    (o.leaf holder content).entries[n]? =
      if n = o.size then some ⟨content, holder, o.size + 1⟩ else o.entries[n]? :=
  Array.getElem?_push

/-- A new leaf has the next number, and changes no other content. -/
theorem content?_leaf :
    (o.leaf holder content).content? n = if n = o.size then some content else o.content? n := by
  rw [content?, getElem?_leaf]
  by_cases hn : n = o.size
  · rw [if_pos hn, if_pos hn]
    rfl
  · rw [if_neg hn, if_neg hn]
    rfl

/-- A new leaf has its holder as parent, and changes no other parent. -/
theorem parent?_leaf (h : holder < o.size) :
    (o.leaf holder content).parent? n = if n = o.size then some holder else o.parent? n := by
  rw [parent?, getElem?_leaf]
  by_cases hn : n = o.size
  · rw [if_pos hn, if_pos hn]
    exact if_pos (hn ▸ h)
  · rw [if_neg hn, if_neg hn]
    rfl

/-- A node that is closed stays what it is and where it is. -/
theorem getElem?_close :
    (o.close m).entries[n]? =
      o.entries[n]?.map fun e => if m = n then { e with stop := o.size } else e := by
  rw [close, Array.getElem?_modify]
  by_cases hm : m = n <;> cases o.entries[n]? <;> simp [hm]

@[simp] theorem content?_close : (o.close m).content? n = o.content? n := by
  rw [content?, content?, getElem?_close]
  cases o.entries[n]? with
  | none => rfl
  | some e => by_cases hm : m = n <;> simp [hm]

@[simp] theorem parent?_close : (o.close m).parent? n = o.parent? n := by
  rw [parent?, parent?, getElem?_close]
  cases o.entries[n]? with
  | none => rfl
  | some e => by_cases hm : m = n <;> simp [hm]

theorem lt_size_of_content? (h : o.content? n = some content) : n < o.size := by
  rcases Option.map_eq_some_iff.1 h with ⟨e, he, _⟩
  exact (Array.getElem?_eq_some_iff.1 he).1

end Outline

namespace Xml

def Content.IsAttr (c : Content) : Prop :=
  ∃ name value, c = .attr name value

def Content.IsBinding (c : Content) : Prop :=
  ∃ front space, c = .binding front space

namespace Document

/--
The node `n` belongs to an element, and between the two there are only attributes of the element and
prefixes in force at it.
-/
def Attached (o : Outline Content) (n : Nat) : Prop :=
  ∃ p name, o.parent? n = some p ∧ o.content? p = some (.element name) ∧
    ∀ m, p < m → m < n →
      o.parent? m = some p ∧ ∃ c, o.content? m = some c ∧ (c.IsAttr ∨ c.IsBinding)

/--
Between an element and one of its attributes there are only other attributes of the element and
prefixes in force at it, and all these prefixes come before the attribute.
-/
structure Arranged (o : Outline Content) : Prop where
  attr : ∀ n c, o.content? n = some c → c.IsAttr → Attached o n
  binding_lt : ∀ m n p c c', o.content? m = some c → c.IsBinding → o.parent? m = some p →
    o.content? n = some c' → c'.IsAttr → o.parent? n = some p → m < n

/-- The node `e` is an element that holds all nodes after it, which are prefixes and attributes. -/
structure Opening (o : Outline Content) (e : Nat) : Prop where
  arranged : Arranged o
  element : ∃ name, o.content? e = some (.element name)
  own : ∀ m, e < m → m < o.size →
    o.parent? m = some e ∧ ∃ c, o.content? m = some c ∧ (c.IsAttr ∨ c.IsBinding)

variable {o : Outline Content} {holder e : Nat} {c : Content}

/-! ## New nodes -/

/-- A new node comes after all that matters to an older one. -/
theorem Attached.leaf {n : Nat} (h : Attached o n) (hn : n < o.size) (hholder : holder < o.size) :
    Attached (o.leaf holder c) n := by
  rcases h with ⟨p, name, hp, helement, hbetween⟩
  have hpn : p < n := Outline.parent?_lt hp
  refine ⟨p, name, ?_, ?_, ?_⟩
  · rwa [Outline.parent?_leaf hholder, if_neg hn.ne]
  · rwa [Outline.content?_leaf, if_neg (hpn.trans hn).ne]
  · intro m hpm hmn
    rw [Outline.parent?_leaf hholder, Outline.content?_leaf, if_neg (hmn.trans hn).ne,
      if_neg (hmn.trans hn).ne]
    exact hbetween m hpm hmn

/-- A node that is neither an attribute nor a prefix may stand anywhere. -/
theorem Arranged.leaf (h : Arranged o) (hholder : holder < o.size) (hattr : ¬c.IsAttr)
    (hbinding : ¬c.IsBinding) : Arranged (o.leaf holder c) := by
  constructor
  · intro n c' hn hc'
    rw [Outline.content?_leaf] at hn
    split at hn
    · cases hn
      exact absurd hc' hattr
    · exact (h.attr n c' hn hc').leaf (Outline.lt_size_of_content? hn) hholder
  · -- the new node is neither a binding nor an attribute, so both nodes are old ones
    intro m n p c₁ c₂ hm hc₁ hmp hn hc₂ hnp
    rw [Outline.content?_leaf] at hm hn
    rw [Outline.parent?_leaf hholder] at hmp hnp
    split at hm
    · cases hm
      exact absurd hc₁ hbinding
    · split at hn
      · cases hn
        exact absurd hc₂ hattr
      · rename_i hmold hnold
        rw [if_neg hmold] at hmp
        rw [if_neg hnold] at hnp
        exact h.binding_lt m n p c₁ c₂ hm hc₁ hmp hn hc₂ hnp

theorem Arranged.close (h : Arranged o) : Arranged (o.close e) :=
  ⟨by simpa [Attached] using h.attr, by simpa using h.binding_lt⟩

/-- An element begins with nothing of its own. -/
theorem Arranged.opening (h : Arranged o) (hholder : holder < o.size) (name : Name) :
    Opening (o.leaf holder (.element name)) o.size := by
  refine ⟨h.leaf hholder (by rintro ⟨_, _, hc⟩; cases hc) (by rintro ⟨_, _, hc⟩; cases hc),
    ⟨name, ?_⟩, ?_⟩
  · rw [Outline.content?_leaf, if_pos rfl]
  · intro m hem hm
    rw [Outline.size_leaf] at hm
    omega

theorem Opening.lt_size (h : Opening o e) : e < o.size :=
  let ⟨_, hname⟩ := h.element
  Outline.lt_size_of_content? hname

/--
One more attribute or prefix of the element that is being opened. A prefix must not come after an
attribute.
-/
theorem Opening.leaf (h : Opening o e) (hc : c.IsAttr ∨ c.IsBinding)
    (hfirst : c.IsBinding → ∀ m c', e < m → o.content? m = some c' → ¬c'.IsAttr) :
    Opening (o.leaf e c) e := by
  have hsize := h.lt_size
  have hparent : ∀ m, (o.leaf e c).parent? m = if m = o.size then some e else o.parent? m :=
    fun m => Outline.parent?_leaf hsize
  have helement : ∃ name, (o.leaf e c).content? e = some (.element name) := by
    rcases h.element with ⟨name, hname⟩
    exact ⟨name, by rwa [Outline.content?_leaf, if_neg hsize.ne]⟩
  have hown : ∀ m, e < m → m < (o.leaf e c).size → (o.leaf e c).parent? m = some e ∧
      ∃ c', (o.leaf e c).content? m = some c' ∧ (c'.IsAttr ∨ c'.IsBinding) := by
    intro m hem hm
    rw [hparent, Outline.content?_leaf]
    by_cases hnew : m = o.size
    · simp [hnew, hc]
    · rw [if_neg hnew, if_neg hnew]
      rw [Outline.size_leaf] at hm
      exact h.own m hem (by omega)
  refine ⟨⟨?_, ?_⟩, helement, hown⟩
  · intro n c' hn hc'
    by_cases hnew : n = o.size
    · -- the new node follows what the element already has
      rcases helement with ⟨name, hname⟩
      refine ⟨e, name, by rw [hparent, if_pos hnew], hname, ?_⟩
      intro m hem hmn
      exact hown m hem (by rw [Outline.size_leaf]; omega)
    · rw [Outline.content?_leaf, if_neg hnew] at hn
      exact (h.arranged.attr n c' hn hc').leaf (Outline.lt_size_of_content? hn) hsize
  · intro m n p c₁ c₂ hm hc₁ hmp hn hc₂ hnp
    rw [Outline.content?_leaf] at hm hn
    rw [hparent] at hmp hnp
    split at hm
    · -- a new prefix: the attribute would have to be one of this element
      cases hm
      rename_i hmnew
      split at hn
      · cases hn
        rcases hc₁ with ⟨_, _, rfl⟩
        rcases hc₂ with ⟨_, _, hc⟩
        cases hc
      · rename_i hnold
        rw [if_pos hmnew] at hmp
        rw [if_neg hnold] at hnp
        cases hmp
        exact absurd hc₂ (hfirst hc₁ n c₂ (Outline.parent?_lt hnp) hn)
    · rename_i hmold
      have hlt := Outline.lt_size_of_content? hm
      split at hn
      · omega
      · rename_i hnold
        rw [if_neg hmold] at hmp
        rw [if_neg hnold] at hnp
        exact h.arranged.binding_lt m n p c₁ c₂ hm hc₁ hmp hn hc₂ hnp

/-! ## Numbering -/

/-- An element stays open for attributes while its namespace bindings are added. -/
theorem Opening.foldl_bindings (fronts : List (String × String)) (h : Opening o e)
    (hfirst : ∀ m c, e < m → o.content? m = some c → ¬c.IsAttr) :
    Opening ((fronts.map fun (front, space) => Content.binding front space).foldl
      (fun o content => o.leaf e content) o) e := by
  induction fronts generalizing o with
  | nil => exact h
  | cons b fronts ih =>
      refine ih (h.leaf (.inr ⟨_, _, rfl⟩) fun _ => hfirst) ?_
      intro m c hem hm
      rw [Outline.content?_leaf] at hm
      split at hm
      · cases hm
        rintro ⟨_, _, hc⟩
        cases hc
      · exact hfirst m c hem hm

/-- An element stays open while its attributes are added. -/
theorem Opening.foldl_attrs (attributes : List (Name × String)) (h : Opening o e) :
    Opening ((attributes.map fun (n, value) => Content.attr n value).foldl
      (fun o content => o.leaf e content) o) e := by
  induction attributes generalizing o with
  | nil => exact h
  | cons a attributes ih =>
      refine ih (h.leaf (.inl ⟨_, _, rfl⟩) ?_)
      rintro ⟨_, _, hc⟩
      cases hc

/-- An element with its prefixes and attributes, before its children. -/
theorem Arranged.opened (h : Arranged o) (hholder : holder < o.size) (name : Name)
    (fronts : List (String × String)) (attributes : List (Name × String)) :
    Opening ((fronts.map (fun (front, space) => Content.binding front space) ++
        attributes.map fun (n, value) => Content.attr n value).foldl
      (fun done content => done.leaf o.size content) (o.leaf holder (.element name))) o.size := by
  have hopen := h.opening hholder name
  rw [List.foldl_append]
  apply Opening.foldl_attrs
  apply hopen.foldl_bindings
  intro m c hm hc
  have hlt := Outline.lt_size_of_content? hc
  rw [Outline.size_leaf] at hlt
  omega

mutual

/-- Numbering a node keeps attributes in their places, and no number is taken back. -/
theorem arranged_number (holder : Nat) (o : Outline Content) (h : Arranged o)
    (hholder : holder < o.size) :
    ∀ node, Arranged (number holder o node) ∧ o.size ≤ (number holder o node).size
  | .text s => by
      refine ⟨h.leaf hholder ?_ ?_, by simp [number]⟩ <;> rintro ⟨_, _, hc⟩ <;> cases hc
  | .comment s => by
      refine ⟨h.leaf hholder ?_ ?_, by simp [number]⟩ <;> rintro ⟨_, _, hc⟩ <;> cases hc
  | .instruction target content => by
      refine ⟨h.leaf hholder ?_ ?_, by simp [number]⟩ <;> rintro ⟨_, _, hc⟩ <;> cases hc
  | .element name scope attributes children => by
      have hopen := h.opened hholder name scope.fronts attributes
      have hall := arranged_numberAll o.size _ hopen.arranged hopen.lt_size children
      rw [number]
      refine ⟨hall.1.close, ?_⟩
      rw [Outline.size_close]
      exact hopen.lt_size.le.trans hall.2

/-- The same for nodes one after another. -/
theorem arranged_numberAll (holder : Nat) (o : Outline Content) (h : Arranged o)
    (hholder : holder < o.size) :
    ∀ nodes, Arranged (numberAll holder o nodes) ∧ o.size ≤ (numberAll holder o nodes).size
  | [] => ⟨h, le_refl _⟩
  | node :: rest => by
      have hnode := arranged_number holder o h hholder node
      have hrest := arranged_numberAll holder _ hnode.1 (hholder.trans_le hnode.2) rest
      exact ⟨hrest.1, hnode.2.trans hrest.2⟩

end

/-- In a document attributes are in their places. -/
theorem arranged_ofTree (top : List Node) : Arranged (ofTree top).outline := by
  have hroot : ∀ n c, (Outline.empty.leaf 0 Content.root).content? n = some c → c = .root := by
    intro n c hn
    rw [Outline.content?_leaf] at hn
    split at hn
    · cases hn
      rfl
    · cases hn
  have hstart : Arranged (Outline.empty.leaf 0 Content.root) := by
    constructor
    · intro n c hn hc
      rw [hroot n c hn] at hc
      rcases hc with ⟨_, _, hc⟩
      cases hc
    · intro m n p c c' hm hc
      rw [hroot m c hm] at hc
      rcases hc with ⟨_, _, hc⟩
      cases hc
  exact (arranged_numberAll 0 _ hstart (by simp) top).1.close

/-! ## The element of an attribute -/

variable {d : Document} {m n : Nat}

def IsAttr (d : Document) (n : Nat) : Prop :=
  (d.content n).IsAttr

def IsBinding (d : Document) (n : Nat) : Prop :=
  (d.content n).IsBinding

theorem content?_of_isAttr (h : d.IsAttr n) : d.outline.content? n = some (d.content n) := by
  cases hc : d.outline.content? n with
  | some c => simp [content, hc]
  | none =>
      rcases h with ⟨name, value, h⟩
      simp [content, hc] at h

theorem content?_of_isBinding (h : d.IsBinding n) :
    d.outline.content? n = some (d.content n) := by
  cases hc : d.outline.content? n with
  | some c => simp [content, hc]
  | none =>
      rcases h with ⟨front, space, h⟩
      simp [content, hc] at h

/-- All nodes but attributes own themselves. -/
theorem owner_of_not_isAttr (h : ¬d.IsAttr n) : d.owner n = n := by
  unfold owner
  split
  · rename_i name value hc
    exact absurd ⟨name, value, hc⟩ h
  · rfl

/-- An attribute is owned by its parent. -/
theorem owner_of_isAttr {p : Nat} (h : d.IsAttr n) (hp : d.parent? n = some p) :
    d.owner n = p := by
  rcases h with ⟨name, value, hc⟩
  rw [owner, hc, hp]
  rfl

/-- No node comes before its owner. -/
theorem owner_le (d : Document) (n : Nat) : d.owner n ≤ n := by
  unfold owner
  split
  · cases hp : d.parent? n with
    | none => exact le_refl n
    | some p => exact (Outline.parent?_lt hp).le
  · exact le_refl n

/-- No attribute stands for an attribute. -/
theorem not_isAttr_owner (h : Arranged d.outline) (n : Nat) : ¬d.IsAttr (d.owner n) := by
  by_cases hn : d.IsAttr n
  · rcases h.attr n _ (content?_of_isAttr hn) hn with ⟨p, name, hp, hname, _⟩
    rw [owner_of_isAttr hn hp]
    rintro ⟨_, _, hc⟩
    simp [content, hname] at hc
  · rwa [owner_of_not_isAttr hn]

/--
Of two nodes in document order, the second one stands for a node before the first one only if it is
an attribute and the first one a prefix of the same element.
-/
theorem owner_le_owner_iff (h : Arranged d.outline) (hmn : m < n) :
    d.owner m ≤ d.owner n ↔
      ¬(d.IsBinding m ∧ d.IsAttr n ∧ d.parent? m = d.parent? n) := by
  by_cases hn : d.IsAttr n
  · rcases h.attr n _ (content?_of_isAttr hn) hn with ⟨p, name, hp, hname, hbetween⟩
    rw [owner_of_isAttr hn hp]
    constructor
    · rintro hle ⟨hbinding, _, hsame⟩
      -- a prefix stands for itself, and comes after its element
      have hnot : ¬d.IsAttr m := by
        rcases hbinding with ⟨_, _, hc⟩
        rintro ⟨_, _, hc'⟩
        cases hc.symm.trans hc'
      have hpm : p < m := Outline.parent?_lt (hsame.trans hp)
      rw [owner_of_not_isAttr hnot] at hle
      omega
    · intro hother
      by_cases hpm : p < m
      · rcases hbetween m hpm hmn with ⟨hparent, c, hc, hown⟩
        have hcontent : d.content m = c := by simp [content, hc]
        rcases hown with hattr | hbinding
        · have hm : d.IsAttr m := by rwa [IsAttr, hcontent]
          exact (owner_of_isAttr hm hparent).le
        · have hm : d.IsBinding m := by rwa [IsBinding, hcontent]
          exact absurd ⟨hm, hn, hparent.trans hp.symm⟩ hother
      · exact (owner_le d m).trans (not_lt.1 hpm)
  · rw [owner_of_not_isAttr hn]
    exact ⟨fun _ hother => hn hother.2.1, fun _ => (owner_le d m).trans hmn.le⟩

end Document
end Xml
end Gleaner
