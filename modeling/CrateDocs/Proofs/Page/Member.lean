import CrateDocs.Page.Lookup
import CrateDocs.Proofs.Page.Beside
import CrateDocs.Proofs.Page.Item
import CrateDocs.Proofs.Selector.Attribute

/-!
Members on the page of their item. A member that is looked up by its anchor is the one that the page
of its item lists under that anchor.
-/

namespace CrateDocs

namespace Page

open Markup

def HasDeclaration (heading : Node) : Prop :=
  ∃ c ∈ heading.descendants, c.isNamed ["code"] = true ∨ c.hasClass "code-header" = true

instance (heading : Node) : Decidable (HasDeclaration heading) :=
  inferInstanceAs (Decidable (∃ c ∈ heading.descendants, _))

theorem descriptionOf?_eq (heading : Place) :
    descriptionOf? heading = (docblockBeside heading).map Place.node := by
  have hf (o : Option Place) : (o.map Place.node).filter Node.isDocblock =
      (o.filter fun b => b.node.isDocblock).map Place.node := by
    cases o with
    | none => rfl
    | some b => simp only [Option.map_some, Option.filter_some]; split <;> rfl
  unfold descriptionOf? docblockBeside
  cases heading.next? with
  | none => exact hf _
  | some n => exact hf (some n)

theorem first_definitionLayouts_eq_none {n : Node} :
    Layout.first definitionLayouts n = none ↔ ¬HasDeclaration n := by
  simp only [Layout.first, definitionLayouts, HasDeclaration, Node.search,
    List.findSome?_eq_none_iff, List.mem_cons, List.not_mem_nil, or_false, forall_eq_or_imp,
    forall_eq, Option.map_eq_none_iff, List.find?_eq_none, not_exists, not_and, not_or]
  exact ⟨fun h c hc => ⟨h.1 c hc, h.2 c hc⟩,
    fun h => ⟨fun c hc => (h c hc).1, fun c hc => (h c hc).2⟩⟩

theorem token_isVerbatim (k : Kind) : ∀ c ∈ k.token.toList, Selector.IsVerbatim c := by
  refine Selector.forall_isVerbatim ?_
  cases k <;> decide

theorem text_isVerbatim {name : String} (hn : ∀ c ∈ name.toList, Selector.IsVerbatim c) (k : Kind) :
    ∀ c ∈ (Anchor.text k name).toList, Selector.IsVerbatim c := by
  simp only [Anchor.text, String.toList_append, List.mem_append]
  rintro c ((hc | hc) | hc)
  · exact token_isVerbatim k c hc
  · obtain rfl : c = '.' := by simpa using hc
    decide
  · exact hn c hc

end Page

namespace Selector

theorem withoutNull_text (k : Kind) (name : String) :
    withoutNull (Anchor.text k name).toList =
      (Anchor.text k "").toList ++ withoutNull name.toList := by
  have htext : (Anchor.text k name).toList = (Anchor.text k "").toList ++ name.toList := by
    simp [Anchor.text]
  rw [htext, withoutNull, List.map_append]
  exact congrArg (· ++ _) (withoutNull_verbatim (Page.text_isVerbatim (by simp) k))

theorem means_text {name v : String} (h : Means name v) (k : Kind) :
    Means (Anchor.text k name) (Anchor.text k v) := by
  have htext : (Anchor.text k v).toList = (Anchor.text k "").toList ++ v.toList := by
    simp [Anchor.text]
  rw [Means, withoutNull_text, htext]
  exact standsFor_prepend (Page.text_isVerbatim (by simp) k) h

end Selector

namespace Page

open Markup

variable {n : Name} {v : String}

theorem select?_member_meant (d : Document) (hn : Selector.Means n.last v) (k : Kind) :
    select? d (memberSelector k n.last) =
      .ok (d.places.find? fun q => Selector.hasId (Anchor.text k v) q.node) := by
  have hparse := Selector.parse_meant (List.cons_ne_nil (Anchor.text k n.last) [])
    (.cons (Selector.means_text hn k) .nil)
  rw [List.map_singleton, String.intercalate_singleton] at hparse
  rw [select?, memberSelector, hparse]
  simp only [List.map_singleton, Selector.first?_id]
  rfl

theorem memberHeading_of_means (p : Page) (hn : Selector.Means n.last v) (k : Kind) :
    memberHeading p n k =
      match p.document.places.find? fun q => Selector.hasId (Anchor.text k v) q.node with
      | none => .error (.noMember n)
      | some h => .ok h := by
  rw [memberHeading, select?_member_meant p.document hn]
  simp only [bind, Except.bind]
  cases p.document.places.find? fun q => Selector.hasId (Anchor.text k v) q.node <;> rfl

theorem memberHeading_eq {p : Page} {name : Name} {k : Kind} {h : Place}
    (hn : ∀ c ∈ name.last.toList, Selector.IsVerbatim c) (hh : h ∈ p.document.places)
    (hu : ∀ q ∈ p.document.places,
      Selector.hasId (Anchor.text k name.last) q.node = true ↔ q = h) :
    memberHeading p name k = .ok h := by
  rw [memberHeading_of_means p (Selector.means_verbatim hn),
    find?_eq_some_of_only hh ((hu h hh).mpr rfl) fun q hq => (hu q hq).mp]

theorem hasId_iff {d : Document} {h : Place} {id : String} (hh : h ∈ d.places)
    (hp : ∀ q ∈ d.places, Selector.hasId id q.node = true ↔ q.path = h.path) :
    ∀ q ∈ d.places, Selector.hasId id q.node = true ↔ q = h := fun q hq =>
  (hp q hq).trans ⟨Document.eq_of_path hq hh, congrArg Place.path⟩

theorem memberDoc_of_memberHeading {p : Page} {name : Name} {k : Kind} {h : Place}
    (hm : memberHeading p name k = .ok h) :
    (¬HasDeclaration h.node → memberDoc p name k = .error (.noDefinition name)) ∧
      (HasDeclaration h.node → ∃ doc, memberDoc p name k = .ok doc ∧ doc.name = name ∧
        doc.kind = k ∧ doc.definition = some (definition h.node) ∧
        doc.description = proseOf (docblockBeside h)) := by
  have hdoc : memberDoc p name k = match Layout.first definitionLayouts h.node with
      | none => .error (.noDefinition name)
      | some f => .ok (p.locate (some (Anchor.text k name.last)) (.leaf name k (some f.2.visible)
          (proseOf (docblockBeside h)))) := by
    rw [memberDoc, hm]
    simp only [bind, Except.bind]
    rw [descriptionOf?_eq, Option.bind_map]
    cases Layout.first definitionLayouts h.node <;> rfl
  cases hf : Layout.first definitionLayouts h.node with
  | none =>
    rw [hf] at hdoc
    exact ⟨fun _ => hdoc, fun hd => absurd hd (first_definitionLayouts_eq_none.mp hf)⟩
  | some f =>
    rw [hf] at hdoc
    have hdef : definition h.node = f.2.visible := by
      rw [definition, hf]
    obtain ⟨hname, hkind, hdefinition, hdescription⟩ := locate_fields p
      (some (Anchor.text k name.last)) (.leaf name k (some f.2.visible)
        (proseOf (docblockBeside h)))
    refine ⟨fun hd => ?_, fun _ => ⟨_, hdoc, hname, hkind, ?_, hdescription⟩⟩
    · cases hf.symm.trans (first_definitionLayouts_eq_none.mpr hd)
    · exact hdefinition.trans (congrArg some hdef.symm)

/-- On a page that passes `Page.check`, a member that is listed can be read by its name if its
heading is the only element with its id and has a declaration. Its description in the list is the
block that the listing comes to; it is the same when the member is read by its name, if the block
beside the heading has the same text. -/
theorem memberDoc_listed (p : Page) (name : Name) (k kind : Kind) (hk : kind ∈ listedKinds) :
    ((itemDoc p name k).groupsOf kind).flatMap MemberGroup.members =
        (placedMembers kind p.document).map (PlacedMember.doc name) ∧
      ∀ e ∈ placedMembers kind p.document, ∀ m, m = e.doc name →
        (∀ c ∈ m.name.last.toList, Selector.IsVerbatim c) →
        (∀ q ∈ p.document.places,
          Selector.hasId (Anchor.text m.kind m.name.last) q.node = true ↔ q = e.heading) →
        (¬HasDeclaration e.heading.node →
          memberDoc p m.name m.kind = .error (.noDefinition m.name)) ∧
        (HasDeclaration e.heading.node →
          ∃ doc, memberDoc p m.name m.kind = .ok doc ∧ doc.name = m.name ∧ doc.kind = m.kind ∧
            doc.definition = m.definition ∧
            m.description = proseOf (e.reached p.document) ∧
            (proseOf (docblockBeside e.heading) = proseOf (e.reached p.document) →
              doc.description = m.description)) := by
  refine ⟨members_itemDoc p name k hk, ?_⟩
  rintro e he m rfl hn hu
  have hlisted := isListed_of_mem_placedMembers he
  have hreached : (e.doc name).description = proseOf (e.reached p.document) :=
    congrArg proseOf (block_eq_reached hlisted)
  obtain ⟨hbare, hdeclared⟩ := memberDoc_of_memberHeading
    (memberHeading_eq hn (heading_mem_of_isListed hlisted) hu)
  refine ⟨hbare, fun hd => ?_⟩
  obtain ⟨doc, hdoc, hname, hkind, hdefinition, hdescription⟩ := hdeclared hd
  exact ⟨doc, hdoc, hname, hkind, hdefinition, hreached,
    fun hb => (hdescription.trans hb).trans hreached.symm⟩

/-- A member that is folded with its description, and after it one without a description. -/
def lenPage : Page where
  document := ⟨[.element "h2" [⟨"id", "provided-methods"⟩] [.text .plain "Methods"],
    .element "div" [⟨"class", "methods"⟩] [.element "details" [] [
      .element "summary" [] [.element "section" [⟨"id", "method.len"⟩, ⟨"class", "method"⟩]
        [.element "h4" [⟨"class", "code-header"⟩] [.text .plain "fn len(&self) -> usize"]]],
      .element "div" [⟨"class", "docblock"⟩] [.text .plain "How many."]],
    .element "h4" [⟨"id", "method.is_empty"⟩, ⟨"class", "method"⟩]
      [.element "code" [] [.text .plain "fn is_empty(&self) -> bool"]]]]⟩
  url := none

theorem memberDoc_listed_len :
    ∃ e e', placedMembers .method lenPage.document = [e, e'] ∧
      HasDeclaration e.heading.node ∧ docblockBeside e.heading = e.reached lenPage.document ∧
      HasDeclaration e'.heading.node ∧ docblockBeside e'.heading = none ∧
      e'.reached lenPage.document = none ∧
      (∃ doc, memberDoc lenPage ⟨"lib::Vector::len"⟩ .method = .ok doc ∧
        doc.definition = some "fn len(&self) -> usize" ∧
        doc.description = (e.doc ⟨"lib::Vector"⟩).description ∧
        doc.description = some ⟨"How many.", "How many."⟩) ∧
      ∃ doc, memberDoc lenPage ⟨"lib::Vector::is_empty"⟩ .method = .ok doc ∧
        doc.definition = some "fn is_empty(&self) -> bool" ∧
        doc.description = (e'.doc ⟨"lib::Vector"⟩).description ∧ doc.description = none := by
  let fold := lenPage.document.places.get ⟨2, by decide⟩
  let heading := lenPage.document.places.get ⟨4, by decide⟩
  let block := lenPage.document.places.get ⟨6, by decide⟩
  let e : PlacedMember := ⟨.method, some fold, heading, some block⟩
  let e' : PlacedMember := ⟨.method, none, lenPage.document.places.get ⟨7, by decide⟩, none⟩
  have he : placedMembers .method lenPage.document = [e, e'] := rfl
  have hlast : (e.doc ⟨"lib::Vector"⟩).name.last = "len" := by decide
  have hlast' : (e'.doc ⟨"lib::Vector"⟩).name.last = "is_empty" := by decide
  have hd : HasDeclaration e.heading.node := by decide
  have hd' : HasDeclaration e'.heading.node := by decide
  obtain ⟨-, h⟩ := memberDoc_listed lenPage ⟨"lib::Vector"⟩ .trait .method (by decide)
  obtain ⟨-, hm⟩ := h e (by simp [he]) (e.doc ⟨"lib::Vector"⟩) rfl
    (by rw [hlast]; exact Selector.forall_isVerbatim (by decide))
    (by rw [hlast]; exact hasId_iff (List.get_mem _ _) (by decide))
  obtain ⟨-, hm'⟩ := h e' (by simp [he]) (e'.doc ⟨"lib::Vector"⟩) rfl
    (by rw [hlast']; exact Selector.forall_isVerbatim (by decide))
    (by rw [hlast']; exact hasId_iff (List.get_mem _ _) (by decide))
  obtain ⟨doc, hdoc, -, -, hdef, hprose, hsame⟩ := hm hd
  obtain ⟨doc', hdoc', -, -, hdef', hprose', hsame'⟩ := hm' hd'
  exact ⟨e, e', he, hd, rfl, hd', rfl, rfl,
    ⟨doc, hdoc, hdef.trans (by decide), hsame rfl, (hsame rfl).trans (hprose.trans (by decide))⟩,
    doc', hdoc', hdef'.trans (by decide), hsame' rfl, (hsame' rfl).trans (hprose'.trans rfl)⟩

def plainPage : Page where
  document := ⟨[.element "h2" [⟨"id", "fields"⟩] [.text .plain "Fields"],
    .element "span" [⟨"id", "structfield.a"⟩, ⟨"class", "structfield"⟩] [.text .plain "a: u8"]]⟩
  url := none

theorem not_memberDoc_listed_plain :
    ¬∀ (p : Page) (name : Name) (kind : Kind), kind ∈ listedKinds →
      ∀ e ∈ placedMembers kind p.document, ∀ m, m = e.doc name →
        (∀ c ∈ m.name.last.toList, Selector.IsVerbatim c) →
        (∀ q ∈ p.document.places,
          Selector.hasId (Anchor.text m.kind m.name.last) q.node = true ↔ q = e.heading) →
        ∃ doc, memberDoc p m.name m.kind = .ok doc ∧ doc.definition = m.definition ∧
          doc.description = m.description := by
  intro h
  let e : PlacedMember := ⟨.field, none, plainPage.document.places.get ⟨1, by decide⟩, none⟩
  have he : placedMembers .field plainPage.document = [e] := rfl
  have hlast : (e.doc ⟨"lib::S"⟩).name.last = "a" := by decide
  have hv : ∀ c ∈ (e.doc ⟨"lib::S"⟩).name.last.toList, Selector.IsVerbatim c := by
    rw [hlast]
    exact Selector.forall_isVerbatim (by decide)
  have hu : ∀ q ∈ plainPage.document.places,
      Selector.hasId (Anchor.text e.kind (e.doc ⟨"lib::S"⟩).name.last) q.node = true ↔
        q = e.heading := by
    rw [hlast]
    exact hasId_iff (List.get_mem _ _) (by decide)
  obtain ⟨doc, hd, -⟩ := h plainPage ⟨"lib::S"⟩ .field (by decide) e (by simp [he]) _ rfl hv hu
  obtain ⟨hbare, -⟩ := memberDoc_of_memberHeading (memberHeading_eq hv (List.get_mem _ _) hu)
  cases (hbare (by decide)).symm.trans hd

end Page

end CrateDocs
