import CrateDocs.Proofs.Markup.Edited
import CrateDocs.Proofs.Page.Folded
import CrateDocs.Proofs.Page.WellFormed

/-!
Groups of implementations. Whatever layouts the headings of a list are in, its group has one member
for each element that has a heading with a named link, and the members are sorted. Two of them that
have the same place in the order are equal, so that the group does not hang on the order of the
list, nor on headings that name nothing.
-/

namespace CrateDocs

theorem Listing.members_of_starts {parent : Name} {kind : Kind} {steps : List Step}
    (h : ∀ s ∈ steps, ∃ name definition, s = .start name definition) :
    members parent kind steps = steps.filterMap fun s =>
      (opened s).map fun p => .leaf (parent.child p.name) kind p.definition none := by
  induction steps with
  | nil => exact members_nil
  | cons s r ih =>
    have hdescribed : described r = none := by
      cases r with
      | nil => rfl
      | cons t r =>
        obtain ⟨name, definition, rfl⟩ := h t (by simp)
        rfl
    rw [members_cons, member?, hdescribed, ih fun t ht => h t (by simp [ht]), List.filterMap_cons]
    cases opened s <;> rfl

namespace Page

open Markup

def linkText? (heading : Node) : Option String :=
  (heading.search fun m => m.isNamed ["a"]).map Node.visible

section Lists

variable (d : Document) (parent : Name)

/-- The implementation that an element of a list shows: its heading has a first link that is not
empty, and it has the name that the link has. -/
def impl? (layouts : List (Layout Node Node)) (n : Node) : Option Doc :=
  (Layout.first layouts n).bind fun found =>
    ((linkText? found.2).filter fun s => s ≠ "").map fun s =>
      .leaf (parent.child s) .impl (some (definition found.2)) none

def implList? (lists : List ImplList) : Option (ImplList × Node) :=
  lists.findSome? fun l => (d.byId? l.id).map fun p => (l, p.node)

def implsOn (lists : List ImplList) : List Doc :=
  match implList? d lists with
  | some (l, n) => n.childElements.filterMap (impl? parent l.layouts)
  | none => []

end Lists

variable {d d' : Document} {parent : Name} {layouts : List (Layout Node Node)}
  {lists : List ImplList} {n : Node}

theorem items_readImpl (parent : Name) (layouts : List (Layout Node Node)) (n : Node) :
    ((readImpl layouts n).items.filterMap fun s => (Listing.opened s).map fun p =>
      Doc.leaf (parent.child p.name) .impl p.definition none) = (impl? parent layouts n).toList := by
  rw [readImpl, Trail.items_append, Trail.items_note, List.nil_append, impl?]
  cases Layout.first layouts n with
  | none => rfl
  | some found =>
    obtain ⟨name, h⟩ := found
    rw [Trail.items_append, Trail.items_note, List.nil_append, Option.bind_some]
    show [Step.start (linkText? h) _].filterMap _ = _
    cases linkText? h with
    | none => rfl
    | some s => by_cases hs : s = "" <;> simp [Listing.opened, Option.filter_some, hs]

theorem members_readImpls (d : Document) (parent : Name) (lists : List ImplList) :
    Listing.members parent .impl (readImpls d lists).items = implsOn d parent lists := by
  have hlist : (lists.findSome? fun l => (d.byId? l.id).map fun p => (l.layouts, p.node)) =
      (implList? d lists).map fun f => (f.1.layouts, f.2) := by
    rw [implList?, List.map_findSome?]
    refine congrArg (fun f => lists.findSome? f) (funext fun l => ?_)
    rw [Function.comp_apply, Option.map_map]
    rfl
  have hstarts : ∀ s ∈ (readImpls d lists).items, ∃ name definition, s = .start name definition := by
    intro s hs
    obtain ⟨name, definition, hs⟩ := exists_of_mem_readImpls hs
    exact ⟨name, some definition, hs⟩
  rw [Listing.members_of_starts hstarts, readImpls, hlist, implsOn]
  cases implList? d lists with
  | none => rfl
  | some f =>
    obtain ⟨l, n⟩ := f
    show (Trail.items (n.childElements.flatMap (readImpl l.layouts))).filterMap _ = _
    rw [Trail.items_flatMap, List.filterMap_flatMap]
    simp only [items_readImpl]
    exact (List.filterMap_eq_flatMap_toList _ _).symm

theorem items_implGroup_eq (d : Document) (parent : Name) (title : String)
    (lists : List ImplList) : (implGroup d parent title lists).items =
      titled (some title) ((implsOn d parent lists).mergeSort Listing.precedes) := by
  have hnil : (implsOn d parent lists).mergeSort Listing.precedes = [] ↔
      implsOn d parent lists = [] := by
    rw [← List.length_eq_zero_iff, List.length_mergeSort, List.length_eq_zero_iff]
  rw [items_implGroup, members_readImpls, titled]
  simp only [hnil]

/-- A member that is settled by its name and its declaration. -/
def IsImpl (m : Doc) : Prop := ∃ name definition, m = .leaf name .impl (some definition) none

theorem isImpl_of_mem_implsOn {m : Doc} (h : m ∈ implsOn d parent lists) : IsImpl m := by
  unfold implsOn at h
  split at h
  · obtain ⟨n, -, hn⟩ := List.mem_filterMap.mp h
    obtain ⟨found, -, hm⟩ := Option.bind_eq_some_iff.mp hn
    obtain ⟨s, -, rfl⟩ := Option.map_eq_some_iff.mp hm
    exact ⟨_, _, rfl⟩
  · cases h

theorem eq_of_isImpl {a b : Doc} (ha : IsImpl a) (hb : IsImpl b)
    (hab : Listing.precedes a b = true) (hba : Listing.precedes b a = true) : a = b := by
  obtain ⟨⟨name⟩, definition, rfl⟩ := ha
  obtain ⟨⟨name'⟩, definition', rfl⟩ := hb
  rw [Doc.precedes_eq, decide_eq_true_eq] at hab hba
  have hkey := le_antisymm hab hba
  obtain ⟨hname, hrest⟩ := Prod.ext_iff.mp (toLex.injective hkey)
  obtain ⟨-, hdefinition⟩ := Prod.ext_iff.mp (toLex.injective hrest)
  obtain rfl : name = name' := hname
  obtain rfl : definition = definition' := hdefinition
  rfl

theorem mergeSort_eq_of_perm {ms ms' : List Doc} (h : ms'.Perm ms) (hm : ∀ m ∈ ms, IsImpl m) :
    ms'.mergeSort Listing.precedes = ms.mergeSort Listing.precedes := by
  have hsorted : (ms'.mergeSort Listing.precedes).Perm (ms.mergeSort Listing.precedes) :=
    (List.mergeSort_perm ms' _).trans (h.trans (List.mergeSort_perm ms _).symm)
  refine hsorted.eq_of_pairwise (fun a b ha hb => eq_of_isImpl ?_ ?_)
    (Doc.pairwise_precedes ms') (Doc.pairwise_precedes ms)
  · exact hm a (h.mem_iff.mp (List.mem_mergeSort.mp ha))
  · exact hm b (List.mem_mergeSort.mp hb)

/-- Children of a list in another order, some of which are left out that show no implementation. -/
def IsRelisted (parent : Name) (layouts : List (Layout Node Node)) (cs cs' : List Node) : Prop :=
  ∃ dropped, cs.Perm (cs' ++ dropped) ∧
    ∀ n ∈ dropped, n.isElement = true → impl? parent layouts n = none

theorem subset_of_isRelisted {cs cs' : List Node} (h : IsRelisted parent layouts cs cs') :
    cs' ⊆ cs := by
  obtain ⟨dropped, hp, -⟩ := h
  exact fun n hn => hp.mem_iff.mpr (List.mem_append_left _ hn)

theorem perm_of_isRelisted {cs cs' : List Node} (h : IsRelisted parent layouts cs cs') :
    ((cs'.filter Node.isElement).filterMap (impl? parent layouts)).Perm
      ((cs.filter Node.isElement).filterMap (impl? parent layouts)) := by
  obtain ⟨dropped, hp, hdropped⟩ := h
  have hnil : (dropped.filter Node.isElement).filterMap (impl? parent layouts) = [] := by
    refine List.filterMap_eq_nil_iff.mpr fun n hn => ?_
    obtain ⟨hn, he⟩ := List.mem_filter.mp hn
    exact hdropped n hn he
  have hall := (hp.filter Node.isElement).filterMap (impl? parent layouts)
  rw [List.filter_append, List.filterMap_append, hnil, List.append_nil] at hall
  exact hall.symm

theorem exists_of_byId? {id : String} {p : Place} {R : List Node → List Node → Prop}
    (h : Edited id R d.children d'.children) (hR : ∀ cs cs', R cs cs' → cs' ⊆ cs)
    (hp : d.byId? id = some p) :
    ∃ p', d'.byId? id = some p' ∧ (p'.node = p.node ∨ R p.node.children p'.node.children) := by
  have hn : Node.firstWithId id d.children = some p.node := by
    rw [← d.map_node_byId?, hp]
    rfl
  obtain ⟨n', hn', hrel⟩ := h.firstWithId hR hn
  rw [← d'.map_node_byId?] at hn'
  obtain ⟨p', hp', rfl⟩ := Option.map_eq_some_iff.mp hn'
  exact ⟨p', hp', hrel⟩

theorem byId?_eq_none {id other : String} {R : List Node → List Node → Prop}
    (h : Edited id R d.children d'.children) (hR : ∀ cs cs', R cs cs' → cs' ⊆ cs)
    (hn : d.byId? other = none) : d'.byId? other = none := by
  rw [← Option.map_eq_none_iff (f := Place.node), Document.map_node_byId?,
    Node.firstWithId_eq_none_iff] at hn ⊢
  exact fun hid => hn (h.hasId hR hid)

theorem implList?_relisted {l : ImplList} (h : implList? d lists = some (l, n))
    (hd : Edited l.id (IsRelisted parent l.layouts) d.children d'.children) :
    ∃ n', implList? d' lists = some (l, n') ∧
      (n' = n ∨ IsRelisted parent l.layouts n.children n'.children) := by
  have hR (cs cs') : IsRelisted parent l.layouts cs cs' → cs' ⊆ cs := subset_of_isRelisted
  obtain ⟨before, k, rest, rfl, hk, hnone⟩ := List.findSome?_eq_some_iff.mp h
  obtain ⟨p, hp, hkp⟩ := Option.map_eq_some_iff.mp hk
  obtain ⟨rfl, rfl⟩ := Prod.mk.inj hkp
  obtain ⟨p', hp', hrel⟩ := exists_of_byId? hd hR hp
  refine ⟨p'.node, List.findSome?_eq_some_iff.mpr ⟨before, k, rest, rfl, ?_, ?_⟩, hrel⟩
  · rw [hp']
    rfl
  · intro x hx
    rw [byId?_eq_none hd hR (Option.map_eq_none_iff.mp (hnone x hx))]
    rfl

theorem implsOn_relisted {l : ImplList} (h : implList? d lists = some (l, n))
    (hd : Edited l.id (IsRelisted parent l.layouts) d.children d'.children) :
    (implsOn d' parent lists).Perm (implsOn d parent lists) := by
  obtain ⟨n', hn', rfl | hrel⟩ := implList?_relisted h hd
  · rw [implsOn, implsOn, h, hn']
  · rw [implsOn, implsOn, h, hn']
    exact perm_of_isRelisted hrel

structure IsImplsOf (d : Document) (parent : Name) (lists : List ImplList) (ms : List Doc) :
    Prop where
  complete : ms.Perm (implsOn d parent lists)
  sorted : ms.Pairwise Doc.IsBefore
  unmoved : ∀ l n, implList? d lists = some (l, n) → ∀ d' : Document,
    Edited l.id (IsRelisted parent l.layouts) d.children d'.children →
      ∀ title, (implGroup d' parent title lists).items = titled (some title) ms

theorem isImplsOf_mergeSort (d : Document) (parent : Name) (lists : List ImplList) :
    IsImplsOf d parent lists ((implsOn d parent lists).mergeSort Listing.precedes) where
  complete := List.mergeSort_perm _ _
  sorted := Doc.pairwise_isBefore _
  unmoved l n h d' hd title := by
    rw [items_implGroup_eq, mergeSort_eq_of_perm (implsOn_relisted h hd)]
    exact fun m => isImpl_of_mem_implsOn

theorem isNamed_of_traitLayouts {found : String × Node}
    (h : Layout.first traitLayouts n = some found) : found.2.isNamed ["h3"] = true := by
  obtain ⟨layout, hlayout, hresult⟩ := List.exists_of_findSome?_eq_some h
  obtain ⟨heading, hfind, rfl⟩ := Option.map_eq_some_iff.mp hresult
  simp only [traitLayouts, List.mem_cons, List.not_mem_nil, or_false] at hlayout
  rcases hlayout with rfl | rfl | rfl
  · obtain ⟨s, -, hs⟩ := Option.bind_eq_some_iff.mp hfind
    have hheading := List.find?_some hs
    exact (Bool.and_eq_true_iff.mp hheading).1
  · obtain ⟨himpl, hheading⟩ := Option.ite_none_right_eq_some.mp hfind
    obtain rfl := Option.some.inj hheading
    exact (Bool.and_eq_true_iff.mp himpl).1
  · obtain ⟨-, hheading⟩ := Option.ite_none_right_eq_some.mp hfind
    exact List.find?_some hheading

theorem isImplHeading_of_plainTraitLayout {found : String × Node}
    (h : Layout.first [plainTraitLayout] n = some found) :
    isImplHeading n = true ∧ found.2 = n := by
  obtain ⟨layout, hlayout, hresult⟩ := List.exists_of_findSome?_eq_some h
  obtain ⟨heading, hfind, rfl⟩ := Option.map_eq_some_iff.mp hresult
  obtain rfl := List.mem_singleton.mp hlayout
  obtain ⟨himpl, hheading⟩ := Option.ite_none_right_eq_some.mp hfind
  exact ⟨himpl, (Option.some.inj hheading).symm⟩

/-- Each group of a page that passes `Page.check` holds what the first of its lists on the page
shows, sorted. It stays the same when the children of the list change places, and when headings go
that have no link with a text. -/
theorem implGroups_complete (d : Document) (parent : Name) :
    (∃ traits auto blanket : List Doc,
      (implGroups d parent).items = titled (some "Trait Implementations") traits ++
        titled (some "Auto Trait Implementations") auto ++
        titled (some "Blanket Implementations") blanket ∧
      IsImplsOf d parent [⟨"trait-implementations-list", traitLayouts⟩,
        ⟨"implementations-list", [plainTraitLayout]⟩] traits ∧
      IsImplsOf d parent [⟨"synthetic-implementations-list", traitLayouts⟩] auto ∧
      IsImplsOf d parent [⟨"blanket-implementations-list", traitLayouts⟩] blanket) ∧
    (∀ n found, Layout.first traitLayouts n = some found → found.2.isNamed ["h3"] = true) ∧
    ∀ n found, Layout.first [plainTraitLayout] n = some found →
      isImplHeading n = true ∧ found.2 = n := by
  refine ⟨⟨_, _, _, ?_, isImplsOf_mergeSort d parent _, isImplsOf_mergeSort d parent _,
    isImplsOf_mergeSort d parent _⟩, fun n found => isNamed_of_traitLayouts,
    fun n found => isImplHeading_of_plainTraitLayout⟩
  rw [implGroups, Trail.items_flatMap]
  simp only [implLists, List.flatMap_cons, List.flatMap_nil, List.append_nil, items_implGroup_eq,
    List.append_assoc]

def traitLists : List ImplList :=
  [⟨"trait-implementations-list", traitLayouts⟩, ⟨"implementations-list", [plainTraitLayout]⟩]

def traitPage (items : List Node) : Document :=
  ⟨[.element "div" [⟨"id", "trait-implementations-list"⟩] items]⟩

def traitHeading (name : String) : Node :=
  .element "h3" [⟨"class", "code-header"⟩]
    [.text .plain "impl ", .element "a" [] [.text .plain name], .text .plain " for S"]

def cloneImpl : Node :=
  .element "details" [] [.element "summary" [] [.element "section" [] [traitHeading "Clone"]]]

def debugImpl : Node := .element "section" [⟨"class", "impl"⟩] [traitHeading "Debug"]

def bareImpl : Node := .element "h3" [⟨"class", "impl"⟩] [.text .plain "impl S"]

def traitDocs : List Doc :=
  [.leaf ⟨"k::S::Clone"⟩ .impl (some "impl Clone for S") none,
    .leaf ⟨"k::S::Debug"⟩ .impl (some "impl Debug for S") none]

theorem implGroups_complete_moved :
    implList? (traitPage [debugImpl, bareImpl, cloneImpl]) traitLists =
      some (⟨"trait-implementations-list", traitLayouts⟩,
        .element "div" [⟨"id", "trait-implementations-list"⟩] [debugImpl, bareImpl, cloneImpl]) ∧
    Edited "trait-implementations-list" (IsRelisted ⟨"k::S"⟩ traitLayouts)
      (traitPage [debugImpl, bareImpl, cloneImpl]).children
      (traitPage [cloneImpl, debugImpl]).children ∧
    (implGroup (traitPage [cloneImpl, debugImpl]) ⟨"k::S"⟩ "Trait Implementations"
      traitLists).items = [⟨some "Trait Implementations", traitDocs⟩] ∧
    (implGroups (traitPage [debugImpl, bareImpl, cloneImpl]) ⟨"k::S"⟩).items =
      [⟨some "Trait Implementations", traitDocs⟩] := by
  have hlist : implList? (traitPage [debugImpl, bareImpl, cloneImpl]) traitLists =
      some (⟨"trait-implementations-list", traitLayouts⟩,
        .element "div" [⟨"id", "trait-implementations-list"⟩] [debugImpl, bareImpl, cloneImpl]) :=
    rfl
  have hmoved : Edited "trait-implementations-list" (IsRelisted ⟨"k::S"⟩ traitLayouts)
      (traitPage [debugImpl, bareImpl, cloneImpl]).children
      (traitPage [cloneImpl, debugImpl]).children := by
    refine .here rfl ⟨[bareImpl], ?_, fun n hn _ => ?_⟩
    · show ([debugImpl, bareImpl] ++ [cloneImpl]).Perm ([cloneImpl] ++ [debugImpl, bareImpl])
      exact List.perm_append_comm
    · rw [List.mem_singleton.mp hn]
      rfl
  have hgroup : (implGroup (traitPage [cloneImpl, debugImpl]) ⟨"k::S"⟩ "Trait Implementations"
      traitLists).items = [⟨some "Trait Implementations", traitDocs⟩] := by
    have hshown : implsOn (traitPage [cloneImpl, debugImpl]) ⟨"k::S"⟩ traitLists = traitDocs := rfl
    rw [items_implGroup_eq, hshown, List.mergeSort_of_pairwise (by decide)]
    rfl
  obtain ⟨⟨traits, auto, blanket, hgroups, htraits, hauto, hblanket⟩, -, -⟩ :=
    implGroups_complete (traitPage [debugImpl, bareImpl, cloneImpl]) ⟨"k::S"⟩
  have hsame := htraits.unmoved _ _ hlist _ hmoved "Trait Implementations"
  obtain rfl : auto = [] := hauto.complete.eq_nil
  obtain rfl : blanket = [] := hblanket.complete.eq_nil
  refine ⟨hlist, hmoved, hgroup, hgroups.trans ?_⟩
  rw [← hsame]
  exact congrArg (· ++ [] ++ []) hgroup

end Page

end CrateDocs
