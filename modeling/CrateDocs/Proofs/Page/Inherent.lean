import CrateDocs.Proofs.Item.Name
import CrateDocs.Proofs.Page.Blocks
import CrateDocs.Proofs.Page.Lookup

/-!
Members of inherent implementations. Blocks of implementations hold constants and types beside
methods, but all that is listed from them is listed as methods, while a look up by name tells the
kind from the anchor. The two agree on the methods alone.
-/

namespace CrateDocs

open Markup

namespace Page

def placedInherent (d : Document) : List PlacedMember :=
  (blockSections.flatMap fun id => (d.byId? id).toList.flatMap sectionContainers).flatMap
    (placedIn .method)

variable {d : Document} {e : PlacedMember} {kind i j k : Kind} {marks : List Mark} {v : String}

theorem placedInherent_isPrefixOf (d : Document) : placedInherent d <+: placedMembers .method d := by
  show placedInherent d <+: placedMethods d
  rw [placedInherent, placedMethods, List.flatMap_append, List.append_assoc, List.append_assoc]
  exact List.prefix_append _ _

theorem kind_of_mem_placedInherent (h : e ∈ placedInherent d) : e.kind = .method := by
  obtain ⟨c, -, he⟩ := List.mem_flatMap.mp h
  exact kind_of_mem_placed he

theorem heading_mem_of_mem_placedInherent (h : e ∈ placedInherent d) : e.heading ∈ d.places :=
  heading_mem_of_isListed (isListed_of_mem_placedMembers ((placedInherent_isPrefixOf d).subset h))

section Lookup

variable {p : Page} {n : Name} {h : Place}

theorem hasId_of_id? (hid : h.node.id? = some (Anchor.text j v))
    (hlower : h.node.id? = Selector.attribute? "id" h.node) :
    Selector.hasId (Anchor.text j v) h.node = true := by
  rw [Selector.hasId, ← hlower, hid]
  simp [Selector.equalsValue]

theorem kind_eq_of_hasId (hid : h.node.id? = some (Anchor.text j v))
    (hlower : h.node.id? = Selector.attribute? "id" h.node)
    (hi : Selector.hasId (Anchor.text i v) h.node = true) : i = j := by
  have htoken := anchorToken?_of_hasId (hasId_of_id? hid hlower) hlower
  rw [anchorToken?_of_hasId hi hlower] at htoken
  exact Kind.token_injective (Option.some.inj htoken)

/-- Whether no other element has an anchor of a member with this name. -/
def IsOnly (d : Document) (v : String) (h : Place) : Prop :=
  ∀ q ∈ d.places, ∀ i ∈ Kind.members, Selector.hasId (Anchor.text i v) q.node = true → q = h

variable (hn : Selector.Means n.last v) (hh : h ∈ p.document.places)
  (hid : h.node.id? = some (Anchor.text j v))
  (hlower : h.node.id? = Selector.attribute? "id" h.node) (honly : IsOnly p.document v h)

include hn hh hid hlower honly

theorem findMember?_of_isOnly (hj : j ∈ Kind.members) : p.findMember? n = .ok (some j) := by
  have hself : Selector.hasId (Anchor.text j v) h.node = true := hasId_of_id? hid hlower
  have hfind := find?_eq_some_of_only
    (f := fun q : Place => Kind.members.any fun i => Selector.hasId (Anchor.text i v) q.node) hh
    (List.any_eq_true.mpr ⟨j, hj, hself⟩) fun q hq ht => by
      obtain ⟨i, hi, ht⟩ := List.any_eq_true.mp ht
      exact honly q hq i hi ht
  exact findMember?_of_first hn hfind hself hlower

theorem memberHeading_of_isOnly (hj : j ∈ Kind.members) : memberHeading p n j = .ok h :=
  memberHeading_of_first hn (find?_eq_some_of_only hh (hasId_of_id? hid hlower) fun q hq ht =>
    honly q hq j hj ht)

theorem memberDoc_of_isOnly (hi : i ∈ Kind.members) (hij : i ≠ j) :
    memberDoc p n i = .error (.noMember n) := by
  refine memberDoc_of_none hn (List.find?_eq_none.mpr fun q hq ht => ?_)
  obtain rfl : q = h := honly q hq i hi ht
  exact hij (kind_eq_of_hasId hid hlower ht)

end Lookup

theorem name_doc_of_id? {name : Name} (hid : e.heading.node.id? = some (Anchor.text j v)) :
    (e.doc name).name = name.child (String.ofList (Anchor.stripCounter v.toList)) := by
  show name.child (e.heading.node.anchorName?.getD "") = _
  rw [anchorName?_of_id hid, Option.getD_some]

theorem last_doc_of_id? (name : Name) (hid : e.heading.node.id? = some (Anchor.text j v))
    (hv : ':' ∉ v.toList) (hc : ¬Anchor.IsCounted v.toList) : (e.doc name).name.last = v := by
  rw [name_doc_of_id? hid, Anchor.stripCounter_eq_self hc, String.ofList_toList,
    Name.last_child name hv]

/-- On a page that passes `Page.check`, what is listed from the implementations of an item is listed
as a method. Looking it up by its name gives the kind that its anchor tells, so that the kind in the
list is found again for methods and for nothing else. The id is written in lower case, as on all
pages that have been read. -/
theorem itemDoc_inherent (p : Page) (name : Name) (k : Kind) :
    (placedInherent p.document).map (PlacedMember.doc name) <+:
        ((itemDoc p name k).groupsOf .method).flatMap MemberGroup.members ∧
      ∀ e ∈ placedInherent p.document, ∀ m, m = e.doc name → m.kind = .method ∧
        ∀ j ∈ Kind.members, ∀ segment, e.heading.node.id? = some (Anchor.text j segment) →
          m.name = name.child (String.ofList (Anchor.stripCounter segment.toList)) ∧
          (Selector.Means m.name.last segment →
            e.heading.node.id? = Selector.attribute? "id" e.heading.node →
            IsOnly p.document segment e.heading →
            p.findMember? m.name = .ok (some j) ∧
              memberHeading p m.name j = .ok e.heading ∧
              (p.findMember? m.name = .ok (some m.kind) ↔ j = .method) ∧
              (j ≠ .method → memberDoc p m.name m.kind = .error (.noMember m.name))) := by
  refine ⟨?_, ?_⟩
  · rw [members_itemDoc p name k (by decide)]
    exact (placedInherent_isPrefixOf p.document).map _
  · rintro e he m rfl
    have hkind : (e.doc name).kind = .method := kind_of_mem_placedInherent he
    have hh := heading_mem_of_mem_placedInherent he
    refine ⟨hkind, fun j hj segment hid => ⟨name_doc_of_id? hid, fun hn hlower honly => ?_⟩⟩
    have hfound := findMember?_of_isOnly hn hh hid hlower honly hj
    refine ⟨hfound, memberHeading_of_isOnly hn hh hid hlower honly hj, ?_, fun hne => ?_⟩
    · rw [hfound, hkind]
      simp
    · rw [hkind]
      exact memberDoc_of_isOnly hn hh hid hlower honly (by decide) (Ne.symm hne)

def constantPage : Page where
  document := ⟨[.element "h2" [⟨"id", "implementations"⟩] [.text .plain "Implementations"],
    .element "div" [⟨"id", "implementations-list"⟩] [.element "details" [] [
      .element "summary" [] [.element "section" [⟨"class", "impl"⟩]
        [.element "h3" [] [.text .plain "impl Counter"]]],
      .element "div" [⟨"class", "impl-items"⟩] [
        .element "section" [⟨"id", "associatedconstant.MAX"⟩, ⟨"class", "associatedconstant"⟩]
          [.element "h4" [⟨"class", "code-header"⟩] [.text .plain "const MAX: usize"]]]]]]⟩
  url := none

def placedConstant : PlacedMember :=
  ⟨.method, none, constantPage.document.places.get ⟨7, by decide⟩, none⟩

theorem placedInherent_constantPage : placedInherent constantPage.document = [placedConstant] := rfl

theorem id?_placedConstant :
    placedConstant.heading.node.id? = some (Anchor.text .assocConst "MAX") := by
  decide

theorem itemDoc_inherent_constant :
    placedConstant ∈ placedInherent constantPage.document ∧
      IsOnly constantPage.document "MAX" placedConstant.heading ∧
      [Doc.leaf ⟨"lib::Counter::MAX"⟩ .method (some "const MAX: usize") none] <+:
        ((itemDoc constantPage ⟨"lib::Counter"⟩ .struct).groupsOf .method).flatMap
          MemberGroup.members ∧
      constantPage.findMember? ⟨"lib::Counter::MAX"⟩ = .ok (some .assocConst) ∧
      memberDoc constantPage ⟨"lib::Counter::MAX"⟩ .method =
        .error (.noMember ⟨"lib::Counter::MAX"⟩) := by
  obtain ⟨hlisted, hmembers⟩ := itemDoc_inherent constantPage ⟨"lib::Counter"⟩ .struct
  have hmem : placedConstant ∈ placedInherent constantPage.document := by
    rw [placedInherent_constantPage]
    exact List.mem_singleton_self _
  obtain ⟨-, hlookup⟩ := hmembers _ hmem _ rfl
  obtain ⟨-, hfound⟩ := hlookup .assocConst (by decide) "MAX" id?_placedConstant
  have hlast := last_doc_of_id? ⟨"lib::Counter"⟩ id?_placedConstant (by decide)
    (Anchor.not_isCounted_of_not_mem (by decide))
  have hpath : ∀ q ∈ constantPage.document.places, ∀ i ∈ Kind.members,
      Selector.hasId (Anchor.text i "MAX") q.node = true → q.path = placedConstant.heading.path := by
    decide
  have honly : IsOnly constantPage.document "MAX" placedConstant.heading := fun q hq i hi ht =>
    Document.eq_of_path hq (List.get_mem _ _) (hpath q hq i hi ht)
  obtain ⟨hconst, -, -, hmissing⟩ := hfound
    (hlast ▸ Selector.means_verbatim (Selector.forall_isVerbatim (by decide))) (by decide) honly
  exact ⟨hmem, honly, hlisted, hconst, hmissing (by decide)⟩

/-- The kind in the list is not the one that the anchor tells. -/
theorem not_itemDoc_inherent_kind :
    ¬∀ (p : Page) (name : Name), ∀ e ∈ placedInherent p.document, ∀ j ∈ Kind.members,
      ∀ segment, e.heading.node.id? = some (Anchor.text j segment) → (e.doc name).kind = j := by
  intro hall
  have hkind := hall constantPage ⟨"lib::Counter"⟩ placedConstant
    (by rw [placedInherent_constantPage]; exact List.mem_singleton_self _) .assocConst (by decide)
    "MAX" id?_placedConstant
  cases hkind

end Page

end CrateDocs
