import Gleaner.Document
import Gleaner.Proofs.XPath.NodeSets
import Gleaner.Proofs.Xml.Numbering
/-!
# The rows of a path

A path that selects nodes gives a row for each of them, in document order. In place of an attribute
stands its element, so an element can be given more than once; and as an element comes before the
prefixes in force at it, which come before its attributes, a prefix and an attribute change places.

* `Selection.rows_eq_of_value`: the rows are the nodes, with elements in place of attributes;
* `pairwise_owner_iff`, `nodup_owner_iff`: when these are in order, and when they are distinct;
* `Document.rows_of_selected_nodes` says all this of the rows of a document.
-/

namespace List

/-- Of an ascending list, what holds of all pairs in order holds of all pairs by size. -/
theorem pairwise_iff_of_pairwise_lt {R : Nat → Nat → Prop} {l : List Nat}
    (hl : l.Pairwise (· < ·)) : l.Pairwise R ↔ ∀ a ∈ l, ∀ b ∈ l, a < b → R a b := by
  constructor
  · intro h
    induction l with
    | nil => exact nofun
    | cons x l ih =>
        rcases List.pairwise_cons.1 hl with ⟨hx, hl⟩
        rcases List.pairwise_cons.1 h with ⟨hR, h⟩
        intro a ha b hb hab
        rcases List.mem_cons.1 ha with rfl | hal
        · rcases List.mem_cons.1 hb with rfl | hbl
          · exact absurd hab (lt_irrefl _)
          · exact hR b hbl
        · rcases List.mem_cons.1 hb with rfl | hbl
          · exact absurd hab (hx a hal).not_gt
          · exact ih hl h a hal b hbl hab
  · intro h
    apply hl.imp_of_mem
    intro a b ha hb hab
    exact h a ha b hb hab

end List

namespace Gleaner

namespace XPath.Selection

variable {d : Xml.Document} {s : Selection} {ns : List Nat} {n : Nat}

theorem value_ascending {v : Value} (h : s.value d n = .ok v) : v.Ascending :=
  eval_ascending (Except.mapError_eq_ok_iff.1 h)

theorem nodes_eq_of_value (h : s.value d Xml.Document.root = .ok (.nodes ns)) :
    s.nodes d = .ok (ns.map d.owner) := by
  rw [nodes, h]
  rfl

/-- The rows are the owners of the selected nodes, in the order of the selection. -/
theorem rows_eq_of_value {root : String} (hread : read root = .ok s)
    (hvalue : s.value d Xml.Document.root = .ok (.nodes ns)) :
    (Document.xml d).rows root = .ok ((ns.map d.owner).map (.xml d)) := by
  rw [Document.rows, Document.selected, hread]
  show ((s.nodes d).mapError Expression.Error.xpath >>= _).mapError _ = _
  rw [nodes_eq_of_value hvalue]
  rfl

end XPath.Selection

namespace Xml.Document

variable {d : Document} {ns : List Nat}

/-- An owner is no attribute. -/
theorem not_isAttr_of_mem_owners (h : Arranged d.outline) :
    ∀ n ∈ ns.map d.owner, ¬d.IsAttr n := by
  intro n hn
  rcases List.mem_map.1 hn with ⟨m, _, rfl⟩
  exact not_isAttr_owner h m

/-- A prefix and an attribute of one element are the only nodes that change places. -/
theorem pairwise_owner_iff (h : Arranged d.outline) (hns : ns.Pairwise (· < ·)) :
    (ns.map d.owner).Pairwise (· ≤ ·) ↔
      ∀ m ∈ ns, ∀ n ∈ ns, d.IsBinding m → d.IsAttr n → d.parent? m ≠ d.parent? n := by
  rw [List.pairwise_map, List.pairwise_iff_of_pairwise_lt hns]
  constructor
  · intro hle m hm n hn hbinding hattr hsame
    rcases h.attr n _ (content?_of_isAttr hattr) hattr with ⟨p, _, hp, _⟩
    -- the prefix comes before the attribute, but its element before both
    have hmn : m < n :=
      h.binding_lt m n p _ _ (content?_of_isBinding hbinding) hbinding (hsame.trans hp)
        (content?_of_isAttr hattr) hattr hp
    exact (owner_le_owner_iff h hmn).1 (hle m hm n hn hmn) ⟨hbinding, hattr, hsame⟩
  · intro hapart m hm n hn hmn
    apply (owner_le_owner_iff h hmn).2
    rintro ⟨hbinding, hattr, hsame⟩
    exact hapart m hm n hn hbinding hattr hsame

/-- A row is repeated by an attribute, beside its element or another attribute of it. -/
theorem nodup_owner_iff (hns : ns.Pairwise (· < ·)) :
    (ns.map d.owner).Nodup ↔
      ∀ m ∈ ns, ∀ n ∈ ns, d.IsAttr n → d.owner m = d.owner n → m = n := by
  have hdistinct : ns.Nodup := hns.imp ne_of_lt
  rw [List.nodup_map_iff_inj_on hdistinct]
  constructor
  · intro h m hm n hn _ hsame
    exact h m hm n hn hsame
  · intro h m hm n hn hsame
    by_cases hattr : d.IsAttr n
    · exact h m hm n hn hattr hsame
    · by_cases hattr' : d.IsAttr m
      · exact (h n hn m hm hattr' hsame.symm).symm
      · rwa [owner_of_not_isAttr hattr, owner_of_not_isAttr hattr'] at hsame

end Xml.Document

namespace Document

/--
The nodes that a path selects stand in document order, each once, and give a row each; in place of
an attribute stands its element, so no row is an attribute. The rows are in document order unless a
prefix in force at an element is selected together with an attribute of the element. They are
distinct unless an attribute is selected together with its element or another attribute of it.
-/
theorem rows_of_selected_nodes {top : List Xml.Node} {root : String} {s : XPath.Selection}
    {ns : List Nat} (hread : XPath.Selection.read root = .ok s)
    (hvalue : s.value (.ofTree top) Xml.Document.root = .ok (.nodes ns)) :
    let d := Xml.Document.ofTree top
    (xml d).rows root = .ok ((ns.map d.owner).map (.xml d)) ∧
      ns.Pairwise (· < ·) ∧
      (∀ n ∈ ns.map d.owner, ¬d.IsAttr n) ∧
      ((ns.map d.owner).Pairwise (· ≤ ·) ↔
        ∀ m ∈ ns, ∀ n ∈ ns, d.IsBinding m → d.IsAttr n → d.parent? m ≠ d.parent? n) ∧
      ((ns.map d.owner).Nodup ↔
        ∀ m ∈ ns, ∀ n ∈ ns, d.IsAttr n → d.owner m = d.owner n → m = n) := by
  have harranged := Xml.Document.arranged_ofTree top
  have hascending : ns.Pairwise (· < ·) := XPath.Selection.value_ascending hvalue
  exact ⟨XPath.Selection.rows_eq_of_value hread hvalue, hascending,
    Xml.Document.not_isAttr_of_mem_owners harranged,
    Xml.Document.pairwise_owner_iff harranged hascending, Xml.Document.nodup_owner_iff hascending⟩

def townText : String :=
  "<town xmlns:p='urn:p' name='Oslo' year='1048'><part name='Frogner'/></town>"

def townScope : Xml.Scope :=
  (some "p", "urn:p") :: Xml.Scope.outermost

/-- The nodes that the text of the town is read as. -/
def namedTown : List Xml.Node :=
  [.element ⟨none, "town", none⟩ townScope
    [(⟨none, "name", none⟩, "Oslo"), (⟨none, "year", none⟩, "1048")]
    [.element ⟨none, "part", none⟩ townScope [(⟨none, "name", none⟩, "Frogner")] []]]

theorem read?_townText : Xml.Document.read? townText = some (.ofTree namedTown) := by
  cbv

def namedNodes : XPath.Selection where
  source := "//@name | //part"
  path :=
    .binary .union
      (.step (.step .root .descendantOrSelf .node []) .attributes (.name ⟨none, "name"⟩) [])
      (.step (.step .root .descendantOrSelf .node []) .child (.name ⟨none, "part"⟩) [])

/-- Both names and the part are selected, so the part is a row twice. -/
theorem rows_of_selected_nodes_of_namedTown :
    Xml.Document.read? townText = some (.ofTree namedTown) ∧
      XPath.Selection.read "//@name | //part" = .ok namedNodes ∧
      namedNodes.value (.ofTree namedTown) Xml.Document.root = .ok (.nodes [4, 6, 9]) ∧
      (xml (.ofTree namedTown)).rows "//@name | //part" =
        .ok ([1, 6, 6].map (.xml (.ofTree namedTown))) ∧
      [1, 6, 6].Pairwise (· ≤ ·) ∧ ∀ n ∈ [1, 6, 6], ¬(Xml.Document.ofTree namedTown).IsAttr n := by
  have hread : XPath.Selection.read "//@name | //part" = .ok namedNodes := by cbv
  have hvalue : namedNodes.value (.ofTree namedTown) Xml.Document.root =
      .ok (.nodes [4, 6, 9]) := by cbv
  have howners : [4, 6, 9].map (Xml.Document.ofTree namedTown).owner = [1, 6, 6] := by cbv
  rcases rows_of_selected_nodes hread hvalue with ⟨hrows, _, hattr, _, _⟩
  rw [howners] at hrows hattr
  exact ⟨read?_townText, hread, hvalue, hrows, by decide, hattr⟩

def allAttributes : XPath.Selection where
  source := "//@*"
  path := .step (.step .root .descendantOrSelf .node []) .attributes (.anyName none) []

def allPrefixesAndAttributes : XPath.Selection where
  source := "//namespace::p | //@*"
  path :=
    .binary .union
      (.step (.step .root .descendantOrSelf .node []) .bindings (.name ⟨none, "p"⟩) [])
      (.step (.step .root .descendantOrSelf .node []) .attributes (.anyName none) [])

/--
Two attributes of one element give two rows that are this element, and beside a prefix the rows are
not even in document order.
-/
theorem not_rows_of_attributes_distinct :
    ¬(∀ (text root : String) (d : Xml.Document) (s : XPath.Selection) (rows : List Nat),
      Xml.Document.read? text = some d → XPath.Selection.read root = .ok s →
      s.nodes d = .ok rows → rows.Nodup) ∧
    ¬(∀ (text root : String) (d : Xml.Document) (s : XPath.Selection) (rows : List Nat),
      Xml.Document.read? text = some d → XPath.Selection.read root = .ok s →
      s.nodes d = .ok rows → rows.Pairwise (· ≤ ·)) := by
  constructor
  · intro h
    have hread : XPath.Selection.read "//@*" = .ok allAttributes := by cbv
    have hrows : allAttributes.nodes (.ofTree namedTown) = .ok [1, 1, 6] := by cbv
    exact absurd (h _ _ _ _ _ read?_townText hread hrows) (by decide)
  · intro h
    have hread : XPath.Selection.read "//namespace::p | //@*" = .ok allPrefixesAndAttributes := by
      cbv
    have hrows : allPrefixesAndAttributes.nodes (.ofTree namedTown) = .ok [2, 1, 1, 7, 6] := by cbv
    exact absurd (h _ _ _ _ _ read?_townText hread hrows) (by decide)

end Document
end Gleaner
