import CrateDocs.Proofs.Doc.Groups
import CrateDocs.Proofs.Page.Item
import Mathlib.Data.Prod.Lex
import Mathlib.Data.String.Basic

/-!
Documents of items are well formed, whatever the page is. Each reader gives groups with members,
each member has a name below the item and a declaration, and the groups come in the order of the
kinds.
-/

namespace CrateDocs

open Markup

namespace Doc

/-- A member as the page of an item lists it: named below the item, declared, without groups of its
own and without a URL. -/
structure IsMemberOf (parent : Name) (d : Doc) : Prop where
  named : ∃ s, s ≠ "" ∧ d.name = parent.child s
  declared : d.definition ≠ none
  groups : d.groups = []
  url : d.url = none

/-- The order of members: by name, and then by declaration. -/
def IsBefore (a b : Doc) : Prop :=
  a.name < b.name ∨ a.name = b.name ∧ a.definition.getD "" ≤ b.definition.getD ""

def sortKey (d : Doc) : String ×ₗ Bool ×ₗ String :=
  toLex (d.name.text, toLex (d.definition.isSome, d.definition.getD ""))

theorem precedes_eq (a b : Doc) : Listing.precedes a b = decide (a.sortKey ≤ b.sortKey) := by
  rw [Bool.eq_iff_iff, decide_eq_true_eq]
  simp only [sortKey, Prod.Lex.toLex_le_toLex]
  unfold Listing.precedes
  by_cases hn : a.name = b.name
  · cases ha : a.definition <;> cases hb : b.definition <;> simp [hn]
  · have ht : a.name.text ≠ b.name.text := fun h => hn (congrArg Name.mk h)
    simp only [hn, ht, ne_eq, not_false_eq_true, if_true, decide_eq_true_eq, false_and, or_false]
    rfl

theorem isBefore_of_precedes {a b : Doc} (h : Listing.precedes a b = true) : a.IsBefore b := by
  rw [precedes_eq, decide_eq_true_eq] at h
  rcases Prod.Lex.toLex_le_toLex.mp h with hn | ⟨hn, hd⟩
  · exact .inl hn
  · refine .inr ⟨congrArg Name.mk hn, ?_⟩
    rcases Prod.Lex.toLex_le_toLex.mp hd with hs | ⟨-, hd⟩
    · have ha : a.definition.isSome = false := (Bool.lt_iff.mp hs).1
      rw [Option.isSome_eq_false_iff, Option.isNone_iff_eq_none] at ha
      rw [ha, Option.getD_none]
      exact not_lt.mp fun hlt => List.not_lt_nil _ (String.lt_iff_toList_lt.mp hlt)
    · exact hd

theorem pairwise_precedes (ds : List Doc) :
    (ds.mergeSort Listing.precedes).Pairwise fun a b => Listing.precedes a b = true := by
  refine List.pairwise_mergeSort ?_ ?_ ds
  · intro a b c hab hbc
    simp only [precedes_eq, decide_eq_true_eq] at hab hbc ⊢
    exact hab.trans hbc
  · intro a b
    simp only [precedes_eq, Bool.or_eq_true, decide_eq_true_eq]
    exact le_total _ _

theorem pairwise_isBefore (ds : List Doc) :
    (ds.mergeSort Listing.precedes).Pairwise IsBefore :=
  (pairwise_precedes ds).imp isBefore_of_precedes

theorem isArranged_withTrails {d : Doc} (hd : IsArranged d.groups)
    (l : List (Kind × Trail Group)) : IsArranged (d.withTrails l).groups := by
  induction l generalizing d with
  | nil => exact hd
  | cons e r ih => exact ih (isArranged_withGroups hd)

theorem mem_groups_withTrails {l : List (Kind × Trail Group)} (hl : (l.map Prod.fst).Nodup)
    {d : Doc} (hd : d.groups = []) {e : Kind × List Group} (he : e ∈ (d.withTrails l).groups) :
    ∃ t, (e.1, t) ∈ l ∧ t.items = e.2 := by
  have harranged : IsArranged (d.withTrails l).groups :=
    isArranged_withTrails (hd ▸ isArranged_nil) l
  have hfind := find?_of_mem harranged.nodup he
  by_cases hk : e.1 ∈ l.map Prod.fst
  · obtain ⟨⟨k, t⟩, ht, hkt⟩ := List.mem_map.mp hk
    obtain rfl : k = e.1 := hkt
    have hgroups := groupsOf_withTrails (d := d) hl (by simp [hd]) ht
    rw [groupsOf, hfind] at hgroups
    exact ⟨t, ht, hgroups.symm⟩
  · rw [find?_withTrails_of_not_mem hk, hd] at hfind
    cases hfind

end Doc

def Step.IsDeclared : Step → Prop
  | .start _ definition => definition ≠ none
  | _ => True

namespace Listing

variable {parent : Name} {kind : Kind} {title : Option String} {steps : List Step} {m : Doc}

theorem exists_of_mem_members (h : m ∈ members parent kind steps) :
    ∃ name definition r, .start (some name) definition :: r <:+ steps ∧ name ≠ "" ∧
      m = .leaf (parent.child name) kind definition (described r) := by
  obtain ⟨l, hl, hm⟩ := List.mem_filterMap.mp h
  have hs : l <:+ steps := (List.mem_tails l steps).mp hl
  cases l with
  | nil => cases hm
  | cons s r =>
    obtain ⟨p, hp, rfl⟩ := Option.map_eq_some_iff.mp hm
    unfold opened at hp
    split at hp
    · obtain ⟨hne, hp⟩ := Option.ite_none_left_eq_some.mp hp
      cases hp
      exact ⟨_, _, r, hs, hne, rfl⟩
    · cases hp

theorem isMemberOf_of_mem_members (hs : ∀ s ∈ steps, s.IsDeclared)
    (h : m ∈ members parent kind steps) : m.IsMemberOf parent := by
  obtain ⟨name, definition, r, hr, hne, rfl⟩ := exists_of_mem_members h
  exact ⟨⟨name, hne, rfl⟩, hs _ (hr.subset List.mem_cons_self), rfl, rfl⟩

theorem docs_sort (l : Listing) : l.sort.docs = l.docs.mergeSort precedes := by
  rw [docs, sort, List.reverse_reverse]

theorem group_sort {l : Listing} (h : l.pending = none) (title : Option String) :
    l.sort.group title =
      if l.docs = [] then none else some ⟨title, l.docs.mergeSort precedes⟩ := by
  have hcomplete : (l.sort.complete none).docs = l.docs.mergeSort precedes := by
    have hp : l.sort.pending = none := h
    rw [docs_complete, pendingDoc, hp, docs_sort]
    exact List.append_nil _
  have hnil : l.docs.mergeSort precedes = [] ↔ l.docs = [] := by
    rw [← List.length_eq_zero_iff, List.length_mergeSort, List.length_eq_zero_iff]
  rw [group_eq, hcomplete]
  simp only [hnil]

end Listing

namespace Page

variable {d : Document} {parent : Name} {kind : Kind} {title : Option String} {n : Node}
  {g : MemberGroup Doc} {steps : List Step}

/-- A group that has members, all of them members of one item. -/
structure IsGroupOf (parent : Name) (g : MemberGroup Doc) : Prop where
  nonempty : g.members ≠ []
  members : ∀ m ∈ g.members, m.IsMemberOf parent

theorem isDeclared_step (m : Mark) : m.step.IsDeclared := by
  cases m with
  | heading fold p => exact Option.some_ne_none _
  | block p => trivial

theorem isGroupOf_of_mem_collect {t : Trail Step} (ht : ∀ s ∈ t.items, s.IsDeclared)
    (h : g ∈ (Listing.collect parent kind title t).items) : g.title = title ∧ IsGroupOf parent g := by
  rw [Listing.items_collect] at h
  split at h
  · cases h
  · next hne =>
    obtain rfl := List.mem_singleton.mp h
    exact ⟨rfl, hne, fun m => Listing.isMemberOf_of_mem_members ht⟩

theorem isDeclared_of_marks {marks : List Mark} (h : steps = marks.map Mark.step) :
    ∀ s ∈ steps, s.IsDeclared := by
  subst h
  exact List.forall_mem_map.mpr fun m _ => isDeclared_step m

theorem isGroupOf_of_mem_fieldGroups (h : g ∈ (fieldGroups d parent).items) :
    g.title = none ∧ IsGroupOf parent g := by
  unfold fieldGroups at h
  split at h
  · next p _ =>
    rw [after_eq] at h
    exact isGroupOf_of_mem_collect (isDeclared_of_marks (items_readRun items_readField _)) h
  · cases h

theorem isGroupOf_of_mem_variantGroups (h : g ∈ (variantGroups d parent).items) :
    g.title = none ∧ IsGroupOf parent g := by
  unfold variantGroups at h
  split at h
  · next p _ =>
    rw [after_eq, variantElements_map] at h
    exact isGroupOf_of_mem_collect (isDeclared_of_marks (items_readRun items_readVariant _)) h
  · cases h

theorem isGroupOf_of_mem_memberGroup (h : g ∈ (memberGroup parent kind title n).items) :
    g.title = title ∧ IsGroupOf parent g :=
  -- What is read from an element does not hang on where it is.
  isGroupOf_of_mem_collect (isDeclared_of_marks (items_readMembers (.under (.top []) [] n []))) h

theorem isGroupOf_of_mem_blockGroups {layouts : List (Layout Node BlockHeading)}
    {lenient taken : Bool} {ns : List Node}
    (h : g ∈ (blockGroups parent kind layouts lenient taken ns).items) : IsGroupOf parent g := by
  induction ns generalizing taken with
  | nil => cases h
  | cons n r ih =>
    rw [blockGroups] at h
    split at h
    · exact ih h
    · rw [Trail.items_append, Trail.items_note, List.nil_append] at h
      split at h
      · split at h
        · exact ih h
        · cases h
      · split at h
        · rw [Trail.items_append, List.mem_append] at h
          exact h.elim (fun h => (isGroupOf_of_mem_memberGroup h).2) ih
        · exact ih h
      · rw [Trail.items_append, List.mem_append] at h
        rcases h with h | h
        · split at h
          · exact (isGroupOf_of_mem_memberGroup h).2
          · cases h
        · exact ih h

theorem isGroupOf_of_mem_sectionGroups {p : Place} (h : g ∈ (sectionGroups parent p).items) :
    IsGroupOf parent g := by
  unfold sectionGroups at h
  split at h
  · cases h
  · split at h <;> exact isGroupOf_of_mem_blockGroups h

theorem isGroupOf_of_mem_headedGroups {title : Node → Option String} {ps : List Place}
    (h : g ∈ (headedGroups parent kind title ps).items) :
    (∃ p ∈ ps, g.title = title p.node) ∧ IsGroupOf parent g := by
  rw [headedGroups, Trail.items_flatMap] at h
  obtain ⟨p, hp, h⟩ := List.mem_flatMap.mp h
  split at h
  · obtain ⟨ht, hg⟩ := isGroupOf_of_mem_memberGroup h
    exact ⟨⟨p, hp, ht⟩, hg⟩
  · cases h

theorem isGroupOf_of_mem_methodGroups (h : g ∈ (methodGroups d parent).items) :
    IsGroupOf parent g := by
  simp only [methodGroups, Trail.items_append, List.mem_append] at h
  rcases h with ((h | h) | h) | h
  · rw [Trail.items_flatMap] at h
    obtain ⟨id, -, h⟩ := List.mem_flatMap.mp h
    split at h
    · exact isGroupOf_of_mem_sectionGroups h
    · cases h
  all_goals exact (isGroupOf_of_mem_headedGroups h).2

theorem isGroupOf_of_mem_assocTypeGroups (h : g ∈ (assocTypeGroups d parent).items) :
    g.title = none ∧ IsGroupOf parent g := by
  rw [assocTypeGroups, Trail.items_flatMap] at h
  obtain ⟨id, -, h⟩ := List.mem_flatMap.mp h
  obtain ⟨⟨p, -, ht⟩, hg⟩ := isGroupOf_of_mem_headedGroups h
  exact ⟨ht, hg⟩

theorem exists_of_mem_readImpls {lists : List ImplList} {s : Step}
    (h : s ∈ (readImpls d lists).items) : ∃ name definition, s = .start name (some definition) := by
  unfold readImpls at h
  split at h
  · rw [Trail.items_flatMap] at h
    obtain ⟨n, -, h⟩ := List.mem_flatMap.mp h
    unfold readImpl at h
    rw [Trail.items_append, Trail.items_note, List.nil_append] at h
    split at h
    · rw [Trail.items_append, Trail.items_note, List.nil_append] at h
      exact ⟨_, _, List.mem_singleton.mp h⟩
    · cases h
  · cases h

theorem items_implGroup (d : Document) (parent : Name) (title : String) (lists : List ImplList) :
    (implGroup d parent title lists).items =
      if Listing.members parent .impl (readImpls d lists).items = [] then []
      else [⟨some title, (Listing.members parent .impl (readImpls d lists).items).mergeSort
        Listing.precedes⟩] := by
  have hrun : (Listing.empty parent .impl).run ((readImpls d lists).items ++ [.finish]) =
      ((Listing.empty parent .impl).run (readImpls d lists).items).complete none :=
    List.foldl_concat ..
  have hdocs := Listing.docs_complete_run (Listing.empty parent .impl) (readImpls d lists).items
  have hevents (es : List Event) : Trail.items (es.map .inl : Trail (MemberGroup Doc)) = [] := by
    induction es with
    | nil => rfl
    | cons e r ih => exact ih
  rw [implGroup, Trail.items_append, hevents, hrun, Listing.group_sort (Listing.pending_complete _),
    hdocs]
  show Trail.items (((if Listing.members parent .impl _ = [] then none else _).toList).map .inr) = _
  split <;> rfl

theorem isGroupOf_of_mem_implGroup {title : String} {lists : List ImplList}
    (h : g ∈ (implGroup d parent title lists).items) :
    IsGroupOf parent g ∧ g.members.Pairwise Doc.IsBefore ∧
      ∀ m ∈ g.members, m.description = none := by
  rw [items_implGroup] at h
  split at h
  · cases h
  · next hne =>
    obtain rfl := List.mem_singleton.mp h
    have hmem {m : Doc} (hm : m ∈ (Listing.members parent .impl (readImpls d lists).items).mergeSort
        Listing.precedes) : m ∈ Listing.members parent .impl (readImpls d lists).items :=
      List.mem_mergeSort.mp hm
    refine ⟨⟨?_, fun m hm => ?_⟩, Doc.pairwise_isBefore _, fun m hm => ?_⟩
    · rwa [ne_eq, ← List.length_eq_zero_iff, List.length_mergeSort, List.length_eq_zero_iff]
    · refine Listing.isMemberOf_of_mem_members (fun s hs => ?_) (hmem hm)
      obtain ⟨name, definition, rfl⟩ := exists_of_mem_readImpls hs
      exact Option.some_ne_none _
    · obtain ⟨name, definition, r, hr, -, rfl⟩ := Listing.exists_of_mem_members (hmem hm)
      cases r with
      | nil => rfl
      | cons s r =>
        have hs : s ∈ (readImpls d lists).items := hr.subset (by simp)
        obtain ⟨-, -, rfl⟩ := exists_of_mem_readImpls hs
        rfl

def implTitles : List (Option String) :=
  [some "Trait Implementations", some "Auto Trait Implementations", some "Blanket Implementations"]

theorem titles_implGroups (d : Document) (parent : Name) :
    ((implGroups d parent).items.map MemberGroup.title).Sublist implTitles := by
  have hone (title : String) (lists : List ImplList) :
      ((implGroup d parent title lists).items.map MemberGroup.title).Sublist [some title] := by
    rw [items_implGroup]
    split
    · exact List.nil_sublist _
    · exact List.Sublist.refl _
  have hall (l : List (String × List ImplList)) :
      ((l.flatMap fun e => (implGroup d parent e.1 e.2).items).map MemberGroup.title).Sublist
        (l.map fun e => some e.1) := by
    induction l with
    | nil => exact List.nil_sublist _
    | cons e r ih =>
      rw [List.flatMap_cons, List.map_append]
      exact (hone e.1 e.2).append ih
  rw [implGroups, Trail.items_flatMap]
  exact hall implLists

theorem isGroupOf_of_mem_implGroups (h : g ∈ (implGroups d parent).items) :
    IsGroupOf parent g ∧ g.members.Pairwise Doc.IsBefore ∧
      ∀ m ∈ g.members, m.description = none := by
  rw [implGroups, Trail.items_flatMap] at h
  obtain ⟨e, -, h⟩ := List.mem_flatMap.mp h
  exact isGroupOf_of_mem_implGroup h

structure IsItemGroups (parent : Name) (k : Kind) (gs : List Doc.Group) : Prop where
  kind : k ∈ [Kind.field, .variant, .assocType, .method, .impl]
  groups : ∀ g ∈ gs, IsGroupOf parent g
  untitled : k ∈ [Kind.field, .variant, .assocType] → ∀ g ∈ gs, g.title = none
  titles : k = .impl →
    (gs.map MemberGroup.title).Nodup ∧ (gs.map MemberGroup.title).Sublist implTitles
  ordered : k = .impl → ∀ g ∈ gs, g.members.Pairwise Doc.IsBefore
  undescribed : k = .impl → ∀ g ∈ gs, ∀ m ∈ g.members, m.description = none

theorem isItemGroups_of_ne_impl {k : Kind} {gs : List Doc.Group}
    (hk : k ∈ [Kind.field, .variant, .assocType, .method]) (hg : ∀ g ∈ gs, IsGroupOf parent g)
    (ht : k ≠ .method → ∀ g ∈ gs, g.title = none) : IsItemGroups parent k gs := by
  have hne : k ≠ .impl := fun h => absurd (h ▸ hk) (by decide)
  have hmem : k ∈ [Kind.field, .variant, .assocType, .method] ++ [.impl] :=
    List.mem_append_left _ hk
  refine ⟨hmem, hg, fun h => ht ?_, fun h => absurd h hne, fun h => absurd h hne,
    fun h => absurd h hne⟩
  rintro rfl
  exact absurd h (by decide)

theorem isItemGroups_of_mem_memberGroups {k : Kind} {t : Trail Doc.Group}
    (h : (k, t) ∈ memberGroups d parent) : IsItemGroups parent k t.items := by
  simp only [memberGroups, List.mem_cons, Prod.mk.injEq, List.not_mem_nil, or_false] at h
  rcases h with ⟨rfl, rfl⟩ | ⟨rfl, rfl⟩ | ⟨rfl, rfl⟩ | ⟨rfl, rfl⟩ | ⟨rfl, rfl⟩
  · exact isItemGroups_of_ne_impl (by decide) (fun g hg => (isGroupOf_of_mem_variantGroups hg).2)
      fun _ g hg => (isGroupOf_of_mem_variantGroups hg).1
  · exact isItemGroups_of_ne_impl (by decide) (fun g hg => (isGroupOf_of_mem_fieldGroups hg).2)
      fun _ g hg => (isGroupOf_of_mem_fieldGroups hg).1
  · exact isItemGroups_of_ne_impl (by decide) (fun g hg => (isGroupOf_of_mem_assocTypeGroups hg).2)
      fun _ g hg => (isGroupOf_of_mem_assocTypeGroups hg).1
  · exact isItemGroups_of_ne_impl (by decide) (fun g hg => isGroupOf_of_mem_methodGroups hg)
      fun hne => absurd rfl hne
  · exact ⟨by simp, fun g hg => (isGroupOf_of_mem_implGroups hg).1, by simp,
      fun _ => ⟨(titles_implGroups d parent).nodup (by decide), titles_implGroups d parent⟩,
      fun _ g hg => (isGroupOf_of_mem_implGroups hg).2.1,
      fun _ g hg => (isGroupOf_of_mem_implGroups hg).2.2⟩

/-- Whatever a page is that passes `Page.check`, each of its groups has members, and the groups are
in the order of the kinds. -/
theorem itemDoc_wellFormed (p : Page) (name : Name) (k : Kind) :
    (p.itemDoc name k).groups.Pairwise (fun a b => a.1 < b.1) ∧
      ∀ e ∈ (p.itemDoc name k).groups, e.2 ≠ [] ∧ IsItemGroups name e.1 e.2 := by
  have hnil : (p.locate none (.leaf name k (declaration? k p.document)
      (description? p.document))).groups = [] :=
    groups_locate p none _
  have harranged : Doc.IsArranged (p.itemDoc name k).groups :=
    Doc.isArranged_withTrails (hnil ▸ Doc.isArranged_nil) (memberGroups p.document name)
  refine ⟨harranged.ordered, fun e he => ⟨harranged.nonempty e he, ?_⟩⟩
  obtain ⟨t, ht, hi⟩ := Doc.mem_groups_withTrails (nodup_memberGroups p.document name) hnil he
  exact hi ▸ isItemGroups_of_mem_memberGroups ht

end Page

end CrateDocs
