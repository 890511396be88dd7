import CrateDocs.Page.Module
import CrateDocs.Proofs.Doc.Groups
import CrateDocs.Proofs.Markup.Shape
import CrateDocs.Proofs.Page.Item
import Mathlib.Data.List.Nodup

/-!
The items on the page of a module. Pages of different age list the items of a kind in a table, in
rows, side by side, or in a list. The same group is read from each of them: the items in order, with
their descriptions.
-/

namespace CrateDocs.Page

open Markup

/-- An item as the page of a module lists it. Its description has no cells of a table. -/
structure Item where
  name : String
  description : Option (List Node)
  trimmed : IsTrimmed name
  noCells : ∀ content ∈ description, ∀ n ∈ Node.elements content, n.isNamed ["td"] = false

structure Section where
  kind : Kind
  items : List Item
  listed : kind ∈ moduleKinds
  nonempty : items ≠ []

namespace Item

def content (i : Item) : List Node := i.description.getD []

def prose? (i : Item) : Option Prose :=
  i.description.bind fun c => Prose.ofNode? (.element "div" [] c)

def doc (parent : Name) (k : Kind) (i : Item) : Doc := .leaf (parent.child i.name) k none i.prose?

theorem noCells_content (i : Item) : ∀ n ∈ Node.elements i.content, n.isNamed ["td"] = false := by
  intro n hn
  rw [content] at hn
  cases hd : i.description with
  | none =>
    rw [hd] at hn
    cases hn
  | some c =>
    rw [hd] at hn
    exact i.noCells c hd n hn

/-- Whether an entry that was read is that of an item. -/
structure IsEntry (i : Item) (e : Entry) : Prop where
  name : e.name = i.name
  prose : e.description.bind Prose.ofNode? = i.prose?

end Item

def Section.entry (parent : Name) (s : Section) : Kind × List (MemberGroup Doc) :=
  (s.kind, [⟨none, s.items.map (Item.doc parent s.kind)⟩])

def named (name : String) (is : Node → Prop) : Shape := fun n => n.name? = some name ∧ is n

def holds (ss : List Shape) : Shape := fun n => Shapes ss n.children

def link (s : String) : Shape := named "a" fun n => IsText s n.children

/-- An element for the name of an item, which stands there alone or in a link. -/
structure IsLabel (s : String) (n : Node) : Prop where
  isOrdinary : n.IsOrdinary
  hasClass : n.hasClass "module-item" = true
  content : IsText s n.children ∨ ∃ a, n.children = [a] ∧ link s a

structure IsBlurb (cls : String) (content : List Node) (n : Node) : Prop where
  isOrdinary : n.IsOrdinary
  hasClass : n.hasClass cls = true
  isSkipped : n.isSkipped = false
  children : n.children = content

inductive Tabulation where
  | table
  | rows
  | pairs
  | list

namespace Tabulation

def row (i : Item) : Shape :=
  named "tr" (holds [named "td" (holds [link i.name]),
    named "td" (IsBlurb "docblock-short" i.content)])

def itemRow (i : Item) : Shape := named "div" fun n => n.hasClass "item-row" = true ∧
  holds [IsLabel i.name, IsBlurb "docblock-short" i.content] n

def entry (i : Item) : Shape :=
  named "li" (holds (named "div" (fun n => n.hasClass "item-name" = true ∧
      n.hasClass "desc" = false ∧ holds [link i.name] n) ::
    (i.description.map fun c => named "div" (IsBlurb "desc" c)).toList))

def item : Tabulation → Item → List Shape
  | table, i => [row i]
  | rows, i => [itemRow i]
  | pairs, i => [fun n => IsLabel i.name n ∧ n.hasClass "item-row" = false,
      fun n => IsBlurb "docblock-short" i.content n ∧ n.hasClass "item-row" = false]
  | list, i => [entry i]

/-- The element that comes after the heading of a kind and lists its items. -/
def container (a : Tabulation) (is : List Item) : Shape := fun n =>
  holds (is.flatMap a.item) n ∧
    match a with
    | table => n.name? = some "table"
    | rows | pairs => n.name? = some "div" ∧ n.hasClass "item-table" = true
    | list => n.name? = some "ul" ∧ n.hasClass "item-table" = true

end Tabulation

/-- A page with some sections, each of which comes after the only element with the id of its kind.
No other kind of items has a heading. -/
structure ListsSections (tabulation : Kind → Tabulation) (sections : List Section)
    (d : Document) : Prop where
  headed : ∀ s ∈ sections, ∃ h c, withId s.kind.groupId d = [h] ∧ h.next? = some c ∧
    (tabulation s.kind).container s.items c.node
  alone : ∀ k ∈ moduleKinds, (∀ s ∈ sections, s.kind ≠ k) → withId k.groupId d = []

section Lists

variable {α β γ : Type} {R : α → β → Prop} {S : α → γ → Prop} {as : List α} {bs : List β}

theorem isEmpty_of_forall₂ (h : List.Forall₂ R as bs) (hne : as ≠ []) : bs.isEmpty = false := by
  cases h with
  | nil => exact absurd rfl hne
  | cons => rfl

theorem forall₂_flatMap {f : β → List γ} (h : List.Forall₂ R as bs)
    (hf : ∀ a, ∀ b ∈ bs, R a b → ∃ c, f b = [c] ∧ S a c) : List.Forall₂ S as (bs.flatMap f) := by
  induction h with
  | nil => exact .nil
  | cons hr _ ih =>
    obtain ⟨c, hc, hs⟩ := hf _ _ List.mem_cons_self hr
    rw [List.flatMap_cons, hc]
    exact .cons hs (ih fun a b hb => hf a b (List.mem_cons_of_mem _ hb))

theorem forall₂_filterMap {f : β → Option γ} (h : List.Forall₂ R as bs)
    (hf : ∀ a, ∀ b ∈ bs, R a b → ∃ c, f b = some c ∧ S a c) :
    List.Forall₂ S as (bs.filterMap f) := by
  rw [List.filterMap_eq_flatMap_toList]
  refine forall₂_flatMap h fun a b hb hr => ?_
  obtain ⟨c, hc, hs⟩ := hf a b hb hr
  exact ⟨c, by rw [hc, Option.toList_some], hs⟩

end Lists

section Names

variable {s : String} {n : Node}

theorem nameIn_of_content (h : n.content = s) (hs : IsTrimmed s) : nameIn n = s := by
  rw [nameIn, h, trimmed, hs, String.ofList_toList]

theorem content_of_text (hn : n.IsOrdinary) (h : IsText s n.children) : n.content = s := by
  have hc : n.children = [.text .plain s] := h
  rw [hn.content, hc]
  simp [Node.content, stringsOf, Node.strings, TextKind.counts]

theorem nameIn_link (h : link s n) (hs : IsTrimmed s) : nameIn n = s :=
  nameIn_of_content (content_of_text ⟨"a", h.1, by decide⟩ h.2) hs

theorem childElements_link (h : link s n) : n.childElements = [] := by
  have htext : n.children = [.text .plain s] := h.2
  rw [Node.childElements, htext]
  rfl

theorem nameIn_label (h : IsLabel s n) (hs : IsTrimmed s) : nameIn n = s := by
  refine nameIn_of_content ?_ hs
  rcases h.content with ht | ⟨a, hc, hname, htext⟩
  · exact content_of_text h.isOrdinary ht
  · cases a with
    | text => cases hname
    | element name as cs =>
      obtain rfl : cs = [.text .plain s] := htext
      rw [h.isOrdinary.content, hc]
      simp [Node.content, stringsOf, Node.strings, TextKind.counts]

end Names

section Entries

variable {i : Item} {is : List Item} {es : List Entry} {n : Node}

theorem ofNode?_blurb {cls : String} {content : List Node} (h : IsBlurb cls content n) :
    Prose.ofNode? n = Prose.ofNode? (.element "div" [] content) := by
  have hvisible : n.visible = (Node.element "div" [] content).visible := by
    rw [Node.visible_of_element h.isOrdinary.isElement h.isSkipped h.isOrdinary.isBreak, h.children]
    rw [Node.visible_of_element rfl rfl rfl]
    rfl
  have hmarkup : n.innerMarkup = (Node.element "div" [] content).innerMarkup := by
    rw [h.isOrdinary.innerMarkup, h.children]
  rw [Prose.ofNode?, Prose.ofNode?, hvisible, hmarkup]

theorem isEntry_blurb {cls name : String} (hname : name = i.name)
    (h : IsBlurb cls i.content n) : i.IsEntry ⟨name, some n⟩ := by
  have hprose : Prose.ofNode? n = i.prose? := by
    rw [ofNode?_blurb h, Item.content, Item.prose?]
    cases i.description with
    | none => decide
    | some c => rw [Option.getD_some, Option.bind_some]
  exact ⟨hname, (Option.bind_some n Prose.ofNode?).trans hprose⟩

theorem map_doc (parent : Name) (k : Kind) (h : List.Forall₂ Item.IsEntry is es) :
    es.map (Entry.doc parent k) = is.map (Item.doc parent k) := by
  induction h with
  | nil => rfl
  | cons he _ ih => rw [List.map_cons, List.map_cons, ih, Entry.doc, Item.doc, he.name, he.prose]

end Entries

section Headed

variable {d : Document} {k : Kind} {h c p : Place} {is : Node → Bool}

theorem any_previous?_iff {id : String} (hp : p ∈ d.places) :
    (p.previous?.any fun h => h.node.id? == some id) = true ↔
      ∃ h ∈ withId id d, h.next? = some p := by
  rw [Option.any_eq_true]
  constructor
  · rintro ⟨h, hh, hid⟩
    obtain ⟨hm, hn⟩ := (Document.previous?_eq_some_iff hp).mp hh
    exact ⟨h, List.mem_filter.mpr ⟨hm, hid⟩, hn⟩
  · rintro ⟨h, hh, hn⟩
    obtain ⟨hm, hid⟩ := List.mem_filter.mp hh
    exact ⟨h, (Document.previous?_eq_some_iff hp).mpr ⟨hm, hn⟩, hid⟩

theorem headed?_eq_none (hk : withId k.groupId d = []) : headed? k is d = none := by
  refine List.find?_eq_none.mpr fun p hp => ?_
  rw [Bool.and_eq_true, any_previous?_iff hp, hk]
  simp

theorem headed?_eq (hk : withId k.groupId d = [h]) (hc : h.next? = some c) :
    headed? k is d = if is c.node then some c else none := by
  have hh : h ∈ withId k.groupId d := hk ▸ List.mem_singleton_self h
  have hmem : c ∈ d.places :=
    Document.following_subset_places (List.mem_filter.mp hh).1 (List.mem_of_head? hc)
  -- Only the element right after the heading may be taken.
  have honly (p : Place) (hp : p ∈ d.places) :
      (is p.node && p.previous?.any fun h => h.node.id? == some k.groupId) = true ↔
        is c.node = true ∧ p = c := by
    rw [Bool.and_eq_true, any_previous?_iff hp, hk]
    constructor
    · rintro ⟨hi, h', hh', hn⟩
      obtain rfl := List.mem_singleton.mp hh'
      obtain rfl := Option.some.inj (hc.symm.trans hn)
      exact ⟨hi, rfl⟩
    · rintro ⟨hi, rfl⟩
      exact ⟨hi, h, List.mem_singleton_self h, hc⟩
  cases hf : headed? k is d with
  | none =>
    have hi : ¬is c.node = true := fun hi =>
      List.find?_eq_none.mp hf c hmem ((honly c hmem).mpr ⟨hi, rfl⟩)
    rw [if_neg hi]
  | some p =>
    have hp := List.find?_some hf
    obtain ⟨hi, rfl⟩ := (honly p (List.mem_of_find?_eq_some hf)).mp hp
    rw [if_pos hi]

end Headed

section Table

variable {i : Item} {is : List Item} {r t : Place}

def cellEntry (p : Place) : Entry := ⟨nameIn p.node, (p.parent?.bind Place.next?).map Place.node⟩

theorem isFirstInRow_of_parent {p : Place} (hp : p.parent? = some r)
    (h : (r.node.isNamed ["td"] && isFirst r) = false) : isFirstInRow p = false := by
  rw [isFirstInRow, hp, Option.any_some, h, Bool.and_false]

theorem exists_childElements_two {m n : Node} (h : r.node.childElements = [m, n]) :
    ∃ p q, r.childElements = [p, q] ∧ p.node = m ∧ q.node = n := by
  rw [← Place.map_node_childElements] at h
  obtain ⟨p, l, hl, hp, h⟩ := List.map_eq_cons_iff.mp h
  obtain ⟨q, l, rfl, hq, h⟩ := List.map_eq_cons_iff.mp h
  obtain rfl := List.map_eq_nil_iff.mp h
  exact ⟨p, q, hl, hp, hq⟩

theorem exists_childElements_one {n : Node} (h : r.node.childElements = [n]) :
    ∃ p, r.childElements = [p] ∧ p.node = n := by
  rw [← Place.map_node_childElements] at h
  obtain ⟨p, l, hl, hp, h⟩ := List.map_eq_cons_iff.mp h
  obtain rfl := List.map_eq_nil_iff.mp h
  exact ⟨p, hl, hp⟩

theorem isFirstInRow_of_mem_descendants {q : Place} {content : List Node}
    (hfirst : isFirst q = false) (hc : q.node.children = content)
    (hcells : ∀ n ∈ Node.elements content, n.isNamed ["td"] = false) :
    ∀ p ∈ q.descendants, isFirstInRow p = false := by
  intro p hp
  obtain ⟨s, hs, rfl | hm⟩ := Place.parent_of_mem_descendants hp
  · exact isFirstInRow_of_parent hs (by rw [hfirst, Bool.and_false])
  · have hn : s.node ∈ Node.elements content := by
      have hd : s.node ∈ q.descendants.map Place.node := List.mem_map_of_mem hm
      rw [Place.map_node_descendants] at hd
      cases hq : q.node with
      | element name as cs =>
        rw [hq] at hd hc
        exact hc ▸ hd
      | text k c =>
        rw [hq] at hd
        cases hd
    exact isFirstInRow_of_parent hs (by rw [hcells _ hn, Bool.false_and])

section Siblings

variable {p q : Place} {l : List Place}

theorem isFirst_of_childElements (h : r.childElements = q :: l) : isFirst q = true := by
  have hq : q.preceding = [] := Place.preceding_of_childElements (p := r) (l := []) h
  rw [isFirst, Place.previous?, hq]
  rfl

theorem isFirst_second (h : r.childElements = p :: q :: l) : isFirst q = false := by
  have hq : q.preceding = [p] := Place.preceding_of_childElements (p := r) (l := [p]) h
  rw [isFirst, Place.previous?, hq]
  rfl

theorem next?_first (h : r.childElements = p :: q :: l) : p.next? = some q := by
  have hp : p.following = q :: l := Place.following_of_elementsFrom (l := []) h
  rw [Place.next?, hp, List.head?_cons]

end Siblings

theorem exists_entry_of_row (hr : isFirstInRow r = false) (h : Tabulation.row i r.node) :
    ∃ e, ((r :: r.descendants).filter isFirstInRow).map cellEntry = [e] ∧ i.IsEntry e := by
  obtain ⟨m, n, hc, hm, hn⟩ := Shapes.two h.2
  obtain ⟨p, q, hpq, rfl, rfl⟩ := exists_childElements_two hc
  obtain ⟨m, hm', hlink⟩ := Shapes.one hm.2
  obtain ⟨x, hx, rfl⟩ := exists_childElements_one hm'
  have hparent {s y : Place} (hy : y ∈ s.childElements) : y.parent? = some s :=
    Place.parent_of_mem_elementsFrom hy
  have hcell : ∀ c ∈ r.childElements, isFirstInRow c = false := by
    have hrow : r.node.isNamed ["td"] = false := Node.isNamed_of_name? h.1
    exact fun c hc => isFirstInRow_of_parent (hparent hc) (by rw [hrow, Bool.false_and])
  have hp : isFirstInRow p = false := hcell p (by simp [hpq])
  have hq : isFirstInRow q = false := hcell q (by simp [hpq])
  have hxp : x.parent? = some p := hparent (by simp [hx])
  -- The link is the one element of the row that counts: it stands first in a cell that stands
  -- first.
  have hxfirst : isFirstInRow x = true := by
    have hp : p.node.isNamed ["td"] = true := Node.isNamed_of_name? hm.1
    rw [isFirstInRow, isFirst_of_childElements hx, hxp, Option.any_some, hp,
      isFirst_of_childElements hpq]
    rfl
  have hxnone : x.descendants = [] := by
    have hnone := childElements_link hlink
    rw [← Place.map_node_childElements, List.map_eq_nil_iff] at hnone
    rw [Place.descendants_eq, hnone, List.flatMap_nil]
  have hqnone : q.descendants.filter isFirstInRow = [] := by
    rw [List.filter_eq_nil_iff]
    intro y hy
    rw [isFirstInRow_of_mem_descendants (isFirst_second hpq) hn.2.children i.noCells_content y hy]
    exact Bool.false_ne_true
  have hentry : cellEntry x = ⟨nameIn x.node, some q.node⟩ := by
    rw [cellEntry, hxp, Option.bind_some, next?_first hpq, Option.map_some]
  refine ⟨⟨nameIn x.node, some q.node⟩, ?_, isEntry_blurb (nameIn_link hlink i.trimmed) hn.2⟩
  rw [Place.descendants_eq, hpq]
  simp only [List.flatMap_cons, List.flatMap_nil, List.append_nil, Place.descendants_eq p, hx,
    hxnone, List.filter_cons, hr, hp, hq, hxfirst, hqnone, List.cons_append, List.nil_append,
    Bool.false_eq_true, if_false, if_true, List.map_cons, List.map_nil, hentry]

theorem forall₂_cells (ht : t.node.isNamed ["td"] = false)
    (h : List.Forall₂ (fun i n => Tabulation.row i n) is t.node.childElements) :
    List.Forall₂ Item.IsEntry is ((t.descendants.filter isFirstInRow).map cellEntry) := by
  rw [← Place.map_node_childElements, List.forall₂_map_right_iff] at h
  rw [Place.descendants_eq, List.filter_flatMap, List.map_flatMap]
  refine forall₂_flatMap h fun i r hr hrow => exists_entry_of_row ?_ hrow
  exact isFirstInRow_of_parent (Place.parent_of_mem_elementsFrom hr) (by rw [ht, Bool.false_and])

end Table

section Pairs

variable {i : Item} {is : List Item} {n : Node}

def entryOfPair? (x : Node × Node) : Option Entry :=
  if x.1.hasClass "module-item" && x.2.hasClass "docblock-short" then some ⟨nameIn x.1, some x.2⟩
  else none

structure IsPair (i : Item) (x : Node × Node) : Prop where
  label : IsLabel i.name x.1
  blurb : IsBlurb "docblock-short" i.content x.2

theorem exists_entry_of_pair {x : Node × Node} (h : IsPair i x) :
    ∃ e, entryOfPair? x = some e ∧ i.IsEntry e := by
  refine ⟨⟨nameIn x.1, some x.2⟩, ?_, isEntry_blurb (nameIn_label h.label i.trimmed) h.blurb⟩
  rw [entryOfPair?, h.label.hasClass, h.blurb.hasClass]
  rfl

theorem exists_pair_of_itemRow (h : Tabulation.itemRow i n) :
    ∃ x, rowPair? n = some x ∧ IsPair i x := by
  obtain ⟨a, b, hc, ha, hb⟩ := Shapes.two h.2.2
  refine ⟨(a, b), ?_, ha, hb⟩
  rw [rowPair?, Node.childElements, hc]

theorem forall₂_itemPairs_rows
    (h : List.Forall₂ (fun i n => Tabulation.itemRow i n) is n.childElements) (hne : is ≠ []) :
    List.Forall₂ IsPair is (itemPairs n) := by
  have hrows : (n.childElements.filter fun c => c.hasClass "item-row") = n.childElements := by
    refine List.filter_eq_self.mpr fun c hc => ?_
    obtain ⟨i, -, hi⟩ := exists_of_mem_forall₂ h hc
    exact hi.2.1
  have hitems : itemPairs n = n.childElements.filterMap rowPair? := by
    simp only [itemPairs, hrows, isEmpty_of_forall₂ h hne, Bool.false_eq_true, if_false]
  rw [hitems]
  exact forall₂_filterMap h fun i c _ hc => exists_pair_of_itemRow hc

theorem forall₂_pairs {l : List Node}
    (h : List.Forall₂ (fun s n => s n) (is.flatMap Tabulation.pairs.item) l) :
    List.Forall₂ IsPair is (pairs l) := by
  induction is generalizing l with
  | nil =>
    cases h
    exact .nil
  | cons i r ih =>
    obtain ⟨front, rest, rfl, hfront, hrest⟩ := Shapes.exists_append h
    obtain ⟨a, b, rfl, ha, hb⟩ := Shapes.two hfront
    exact .cons ⟨ha.1, hb.1⟩ (ih hrest)

theorem forall₂_itemPairs_pairs
    (h : List.Forall₂ (fun s n => s n) (is.flatMap Tabulation.pairs.item) n.childElements) :
    List.Forall₂ IsPair is (itemPairs n) := by
  have hrows : (n.childElements.filter fun c => c.hasClass "item-row") = [] := by
    rw [List.filter_eq_nil_iff]
    intro c hc
    obtain ⟨s, hs, hsc⟩ := exists_of_mem_forall₂ h hc
    obtain ⟨i, -, hi⟩ := List.mem_flatMap.mp hs
    have hno : c.hasClass "item-row" = false := by
      rcases List.mem_pair.mp hi with rfl | rfl
      · exact hsc.2
      · exact hsc.2
    rw [hno]
    exact Bool.false_ne_true
  have hitems : itemPairs n = pairs n.childElements := by
    simp only [itemPairs, hrows, List.isEmpty_nil, if_true]
  rw [hitems]
  exact forall₂_pairs h

theorem forall₂_pairEntries (h : List.Forall₂ IsPair is (itemPairs n)) :
    List.Forall₂ Item.IsEntry is ((itemPairs n).filterMap entryOfPair?) :=
  forall₂_filterMap h fun _ _ _ hx => exists_entry_of_pair hx

end Pairs

section List

variable {i : Item} {is : List Item} {n : Node}

theorem exists_entry_of_entry (h : Tabulation.entry i n) :
    ∃ e, listEntry? n = some e ∧ i.IsEntry e := by
  obtain ⟨a, rest, ha, hrest, hc⟩ := List.forall₂_cons_left_iff.mp h.2
  obtain ⟨hdiv, hname, hdesc, hlinks⟩ := ha
  obtain ⟨l, hl, hlink⟩ := Shapes.one hlinks
  have hn : n.isNamed ["li"] = true := Node.isNamed_of_name? h.1
  have hitem : n.search (fun m => m.isNamed ["div"] && m.hasClass "item-name") = some a := by
    have ha : a.isNamed ["div"] = true := Node.isNamed_of_name? hdiv
    rw [Node.search_eq, Node.childElements, hc, List.findSome?_cons, ha, hname]
    rfl
  have hlinkFound : a.search (fun m => m.isNamed ["a"]) = some l := by
    have hal : l.isNamed ["a"] = true := Node.isNamed_of_name? hlink.1
    rw [Node.search_of_childElements hl, if_pos hal]
  have hnone : a.search (fun m => m.isNamed ["div"] && m.hasClass "desc") = none := by
    have hal : l.isNamed ["div"] = false := Node.isNamed_of_name? hlink.1
    rw [Node.search_of_childElements hl, hal, Node.search_of_no_elements (childElements_link hlink)]
    rfl
  have hblurb : i.IsEntry
      ⟨nameIn l, n.search fun m => m.isNamed ["div"] && m.hasClass "desc"⟩ := by
    rw [Node.search_eq, Node.childElements, hc, List.findSome?_cons, hdesc, Bool.and_false, hnone]
    cases hd : i.description with
    | none =>
      rw [hd] at hrest
      cases hrest
      exact ⟨nameIn_link hlink i.trimmed, by rw [Item.prose?, hd]; rfl⟩
    | some c =>
      rw [hd] at hrest
      obtain ⟨b, rfl, hb⟩ := Shapes.one hrest
      have hbn : b.isNamed ["div"] = true := Node.isNamed_of_name? hb.1
      have hbc : i.content = c := by rw [Item.content, hd]; rfl
      rw [List.findSome?_cons, hbn, hb.2.hasClass]
      exact isEntry_blurb (nameIn_link hlink i.trimmed) (hbc ▸ hb.2)
  refine ⟨_, ?_, hblurb⟩
  unfold listEntry?
  rw [if_pos hn, hitem, Option.map_some, hlinkFound]
  rfl

end List

section Sections

variable {d : Document} {k : Kind} {h c : Place} {is : List Item}

theorem getD_first_listLayout {name : String} {read : Document → List Entry}
    {l : List (Layout Document (List Entry))} :
    ((Layout.first (listLayout name read :: l) d).map Prod.snd).getD [] =
      if (read d).isEmpty then ((Layout.first l d).map Prod.snd).getD [] else read d := by
  rw [Layout.first_cons, listLayout]
  dsimp only
  cases (read d).isEmpty <;> rfl

theorem entries_eq (k : Kind) (d : Document) : entries k d =
    if (tableEntries k d).isEmpty then
      if (pairEntries k d).isEmpty then listEntries k d else pairEntries k d
    else tableEntries k d := by
  simp only [entries, entryLayouts, getD_first_listLayout, Layout.first_nil]
  cases hl : listEntries k d <;> simp

theorem entries_of_withId_nil (hk : withId k.groupId d = []) : entries k d = [] := by
  have htable : tableEntries k d = [] := by rw [tableEntries, headed?_eq_none hk]
  have hpairs : pairEntries k d = [] := by rw [pairEntries, headed?_eq_none hk]
  have hlist : listEntries k d = [] := by rw [listEntries, headed?_eq_none hk]
  rw [entries_eq, htable, hpairs, hlist]
  rfl

theorem forall₂_of_flatMap_singleton {shape : Item → Shape} {l : List Node}
    (h : List.Forall₂ (fun s n => s n) (is.flatMap fun i => [shape i]) l) :
    List.Forall₂ (fun i n => shape i n) is l := by
  rw [← List.map_eq_flatMap, List.forall₂_map_left_iff] at h
  exact h

theorem forall₂_entries_table (hk : withId k.groupId d = [h]) (hc : h.next? = some c)
    (hname : c.node.name? = some "table") (hne : is ≠ [])
    (hitems : List.Forall₂ (fun i n => Tabulation.row i n) is c.node.childElements) :
    List.Forall₂ Item.IsEntry is (entries k d) := by
  have hn : c.node.isNamed ["table"] = true := Node.isNamed_of_name? hname
  have htd : c.node.isNamed ["td"] = false := Node.isNamed_of_name? hname
  have htable : tableEntries k d = (c.descendants.filter isFirstInRow).map cellEntry := by
    rw [tableEntries, headed?_eq hk hc, if_pos hn]
    rfl
  have hentries := forall₂_cells htd hitems
  rw [entries_eq, htable, isEmpty_of_forall₂ hentries hne]
  exact hentries

theorem tableEntries_eq_nil {name : String} (hk : withId k.groupId d = [h]) (hc : h.next? = some c)
    (hname : c.node.name? = some name) (hne : name ≠ "table") : tableEntries k d = [] := by
  have hn : c.node.isNamed ["table"] = false := by
    rw [Node.isNamed_of_name? hname]
    simpa using hne
  rw [tableEntries, headed?_eq hk hc, hn]
  rfl

theorem forall₂_entries_pairs (hk : withId k.groupId d = [h]) (hc : h.next? = some c)
    (hname : c.node.name? = some "div") (hclass : c.node.hasClass "item-table" = true)
    (hne : is ≠ []) (hitems : List.Forall₂ IsPair is (itemPairs c.node)) :
    List.Forall₂ Item.IsEntry is (entries k d) := by
  have hdiv : (c.node.isNamed ["div"] && c.node.hasClass "item-table") = true := by
    rw [Node.isNamed_of_name? hname, hclass]
    rfl
  have hpairs : pairEntries k d = (itemPairs c.node).filterMap entryOfPair? := by
    rw [pairEntries, headed?_eq hk hc, if_pos hdiv]
    rfl
  have hentries := forall₂_pairEntries hitems
  rw [entries_eq, tableEntries_eq_nil hk hc hname (by decide), hpairs,
    isEmpty_of_forall₂ hentries hne]
  exact hentries

theorem forall₂_entries_list (hk : withId k.groupId d = [h]) (hc : h.next? = some c)
    (hname : c.node.name? = some "ul") (hclass : c.node.hasClass "item-table" = true)
    (hitems : List.Forall₂ (fun i n => Tabulation.entry i n) is c.node.childElements) :
    List.Forall₂ Item.IsEntry is (entries k d) := by
  have hdiv : (c.node.isNamed ["div"] && c.node.hasClass "item-table") = false := by
    rw [Node.isNamed_of_name? hname]
    rfl
  have hul : (c.node.isNamed ["ul"] && c.node.hasClass "item-table") = true := by
    rw [Node.isNamed_of_name? hname, hclass]
    rfl
  have hpairs : pairEntries k d = [] := by
    rw [pairEntries, headed?_eq hk hc, hdiv]
    rfl
  have hlist : listEntries k d = c.node.childElements.filterMap listEntry? := by
    rw [listEntries, headed?_eq hk hc, if_pos hul]
  rw [entries_eq, tableEntries_eq_nil hk hc hname (by decide), hpairs, hlist]
  exact forall₂_filterMap hitems fun i n _ hn => exists_entry_of_entry hn

theorem forall₂_entries {a : Tabulation} (hk : withId k.groupId d = [h]) (hc : h.next? = some c)
    (ha : a.container is c.node) (hne : is ≠ []) :
    List.Forall₂ Item.IsEntry is (entries k d) := by
  obtain ⟨hitems, hcontainer⟩ := ha
  cases a with
  | table => exact forall₂_entries_table hk hc hcontainer hne (forall₂_of_flatMap_singleton hitems)
  | rows =>
    obtain ⟨hname, hclass⟩ := hcontainer
    exact forall₂_entries_pairs hk hc hname hclass hne
      (forall₂_itemPairs_rows (forall₂_of_flatMap_singleton hitems) hne)
  | pairs =>
    obtain ⟨hname, hclass⟩ := hcontainer
    exact forall₂_entries_pairs hk hc hname hclass hne (forall₂_itemPairs_pairs hitems)
  | list =>
    obtain ⟨hname, hclass⟩ := hcontainer
    exact forall₂_entries_list hk hc hname hclass (forall₂_of_flatMap_singleton hitems)

end Sections

section Groups

variable {d : Document} {sections : List Section} {tabulation : Kind → Tabulation}

theorem moduleKinds_ordered : moduleKinds.Pairwise fun a b => a < b := by decide

theorem groups_moduleDoc (p : Page) (name : Name) : (p.moduleDoc name).groups =
    (moduleKinds.map fun k => (k, entryGroups p.document name k)).filter fun e => !e.2.isEmpty := by
  have hnone (o : Option Prose) : (p.locate none (.leaf name .module none o)).groups = [] :=
    groups_locate p none _
  rw [moduleDoc, Doc.groups_foldl_withGroups _ moduleKinds_ordered, hnone, List.nil_append]
  intro e he
  rw [hnone] at he
  cases he

theorem isArranged_moduleDoc (p : Page) (name : Name) :
    Doc.IsArranged (p.moduleDoc name).groups := by
  rw [groups_moduleDoc]
  have hordered : (moduleKinds.map fun k => (k, entryGroups p.document name k)).Pairwise
      fun a b => a.1 < b.1 := List.pairwise_map.mpr moduleKinds_ordered
  constructor
  · exact hordered.filter _
  · intro e he
    simpa using (List.mem_filter.mp he).2

theorem entryGroups_of_mem (parent : Name) (hd : ListsSections tabulation sections d) {s : Section}
    (hs : s ∈ sections) : (s.kind, entryGroups d parent s.kind) = s.entry parent := by
  obtain ⟨h, c, hk, hc, ha⟩ := hd.headed s hs
  have hentries := forall₂_entries hk hc ha s.nonempty
  rw [entryGroups, Section.entry, isEmpty_of_forall₂ hentries s.nonempty,
    map_doc parent s.kind hentries]
  rfl

theorem mem_groups_moduleDoc {p : Page} (name : Name)
    (hd : ListsSections tabulation sections p.document) {e : Kind × List (MemberGroup Doc)} :
    e ∈ (p.moduleDoc name).groups ↔ e ∈ sections.map (Section.entry name) := by
  rw [groups_moduleDoc, List.mem_filter, List.mem_map, List.mem_map]
  constructor
  · rintro ⟨⟨k, hk, rfl⟩, hne⟩
    by_cases hs : ∃ s ∈ sections, s.kind = k
    · obtain ⟨s, hs, rfl⟩ := hs
      exact ⟨s, hs, (entryGroups_of_mem name hd hs).symm⟩
    · have hnil : entryGroups p.document name k = [] := by
        rw [entryGroups, entries_of_withId_nil (hd.alone k hk fun s hm hsk => hs ⟨s, hm, hsk⟩)]
        rfl
      rw [hnil] at hne
      cases hne
  · rintro ⟨s, hs, rfl⟩
    exact ⟨⟨s.kind, s.listed, entryGroups_of_mem name hd hs⟩, rfl⟩

/-- From a page that passes `Page.check`, the items of its sections are read, in whatever way each
kind is shown. -/
theorem moduleDoc_listsSections (p : Page) (name : Name) (tabulation : Kind → Tabulation)
    (sections : List Section) (hkinds : (sections.map Section.kind).Nodup)
    (hd : ListsSections tabulation sections p.document) :
    (p.moduleDoc name).groups = Doc.arrange (sections.map (Section.entry name)) ∧
      (p.moduleDoc name).groups.Perm (sections.map (Section.entry name)) ∧
      (p.moduleDoc name).groups.Pairwise fun a b => a.1 < b.1 := by
  have harranged := isArranged_moduleDoc p name
  have hnodup : (p.moduleDoc name).groups.Nodup := by
    refine harranged.ordered.imp ?_
    rintro a b hlt rfl
    exact Nat.lt_irrefl _ hlt
  have hentries : (sections.map (Section.entry name)).Nodup := by
    refine List.Nodup.of_map Prod.fst ?_
    rw [List.map_map]
    exact hkinds
  have hperm : (p.moduleDoc name).groups.Perm (sections.map (Section.entry name)) :=
    (List.perm_ext_iff_of_nodup hnodup hentries).mpr fun e => mem_groups_moduleDoc name hd
  exact ⟨(Doc.arrange_of_perm harranged hperm.symm).symm, hperm, harranged.ordered⟩

def shownTabulation : Kind → Tabulation
  | .struct => .table
  | .enum => .rows
  | .trait => .pairs
  | _ => .list

def shownSections : List Section :=
  [⟨.function, [⟨"new", some [.text .plain "Makes one."], by decide, by decide⟩,
      ⟨"len", none, by decide, by decide⟩], by decide, by decide⟩,
    ⟨.struct, [⟨"Vector", some [.text .plain "An array."], by decide, by decide⟩,
      ⟨"Slice", none, by decide, by decide⟩], by decide, by decide⟩,
    ⟨.enum, [⟨"Side", none, by decide, by decide⟩], by decide, by decide⟩,
    ⟨.trait, [⟨"Push", none, by decide, by decide⟩,
      ⟨"Pop", some [.text .plain "Takes one."], by decide, by decide⟩], by decide, by decide⟩]

def shownHeading (id : String) : Node := .element "h2" [⟨"id", id⟩] [.text .plain id]

def shownLink (s : String) : Node := .element "a" [⟨"href", "#"⟩] [.text .plain s]

def shownPage : Document :=
  let div (classes : String) (content : List Node) : Node :=
    .element "div" [⟨"class", classes⟩] content
  let row (name : String) (content : List Node) : Node :=
    .element "tr" [] [.element "td" [] [shownLink name],
      .element "td" [⟨"class", "docblock-short"⟩] content]
  ⟨[shownHeading "functions",
    .element "ul" [⟨"class", "item-table"⟩] [
      .element "li" [] [div "item-name" [shownLink "new"],
        div "desc docblock-short" [.text .plain "Makes one."]],
      .text .plain "\n", .element "li" [] [div "item-name" [shownLink "len"]]],
    shownHeading "structs", .text .plain "\n",
    .element "table" [] [row "Vector" [.text .plain "An array."], row "Slice" []],
    shownHeading "enums",
    div "item-table" [div "item-row" [div "item-left module-item" [shownLink "Side"],
      div "item-right docblock-short" []]],
    shownHeading "traits",
    div "item-table" [div "item-left module-item" [.text .plain "Push"], div "docblock-short" [],
      div "item-left module-item" [shownLink "Pop"],
      div "docblock-short" [.text .plain "Takes one."]]]⟩

theorem listsSections_shownPage : ListsSections shownTabulation shownSections shownPage := by
  constructor
  · simp only [shownSections, List.forall_mem_cons, List.not_mem_nil, false_imp_iff, implies_true,
      and_true]
    refine ⟨⟨_, _, rfl, rfl, ?_, rfl, by decide⟩, ⟨_, _, rfl, rfl, ?_, rfl⟩,
      ⟨_, _, rfl, rfl, ?_, rfl, by decide⟩, ⟨_, _, rfl, rfl, ?_, rfl, by decide⟩⟩
    · refine .cons ⟨rfl, .cons ⟨rfl, by decide, by decide, .cons ⟨rfl, rfl⟩ .nil⟩ ?_⟩
        (.cons ⟨rfl, .cons ⟨rfl, by decide, by decide, .cons ⟨rfl, rfl⟩ .nil⟩ .nil⟩ .nil)
      exact .cons ⟨rfl, ⟨"div", rfl, by decide⟩, by decide, by decide, rfl⟩ .nil
    · refine .cons ⟨rfl, .cons ⟨rfl, .cons ⟨rfl, rfl⟩ .nil⟩ (.cons ⟨rfl, ?_⟩ .nil)⟩
        (.cons ⟨rfl, .cons ⟨rfl, .cons ⟨rfl, rfl⟩ .nil⟩ (.cons ⟨rfl, ?_⟩ .nil)⟩ .nil)
      · exact ⟨⟨"td", rfl, by decide⟩, by decide, by decide, rfl⟩
      · exact ⟨⟨"td", rfl, by decide⟩, by decide, by decide, rfl⟩
    · refine .cons ⟨rfl, by decide, .cons ?_ (.cons ?_ .nil)⟩ .nil
      · exact ⟨⟨"div", rfl, by decide⟩, by decide, .inr ⟨_, rfl, rfl, rfl⟩⟩
      · exact ⟨⟨"div", rfl, by decide⟩, by decide, by decide, rfl⟩
    · refine .cons ⟨?_, by decide⟩ (.cons ⟨?_, by decide⟩ (.cons ⟨?_, by decide⟩
        (.cons ⟨?_, by decide⟩ .nil)))
      · exact ⟨⟨"div", rfl, by decide⟩, by decide, .inl rfl⟩
      · exact ⟨⟨"div", rfl, by decide⟩, by decide, by decide, rfl⟩
      · exact ⟨⟨"div", rfl, by decide⟩, by decide, .inr ⟨_, rfl, rfl, rfl⟩⟩
      · exact ⟨⟨"div", rfl, by decide⟩, by decide, by decide, rfl⟩
  · have hall : ∀ k ∈ moduleKinds, k ∈ shownSections.map Section.kind ∨
        ∀ n ∈ shownPage.places.map Place.node, n.id? ≠ some k.groupId := by decide
    intro k hk hnone
    rcases hall k hk with hlisted | hids
    · obtain ⟨s, hs, hsk⟩ := List.mem_map.mp hlisted
      exact absurd hsk (hnone s hs)
    · refine List.filter_eq_nil_iff.mpr fun q hq => ?_
      simpa using hids q.node (List.mem_map_of_mem hq)

theorem moduleDoc_listsSections_shownPage :
    ListsSections shownTabulation shownSections shownPage ∧
      (moduleDoc ⟨shownPage, none⟩ ⟨"lib"⟩).groups.Perm
        [(.function, [⟨none, [
            .leaf ⟨"lib::new"⟩ .function none (some ⟨"Makes one.", "Makes one."⟩),
            .leaf ⟨"lib::len"⟩ .function none none]⟩]),
          (.struct, [⟨none, [
            .leaf ⟨"lib::Vector"⟩ .struct none (some ⟨"An array.", "An array."⟩),
            .leaf ⟨"lib::Slice"⟩ .struct none none]⟩]),
          (.enum, [⟨none, [.leaf ⟨"lib::Side"⟩ .enum none none]⟩]),
          (.trait, [⟨none, [
            .leaf ⟨"lib::Push"⟩ .trait none none,
            .leaf ⟨"lib::Pop"⟩ .trait none (some ⟨"Takes one.", "Takes one."⟩)]⟩])] := by
  have hdoc := moduleDoc_listsSections ⟨shownPage, none⟩ ⟨"lib"⟩ shownTabulation shownSections
    (by decide) listsSections_shownPage
  exact ⟨listsSections_shownPage, hdoc.2.1⟩

end Groups

end CrateDocs.Page
