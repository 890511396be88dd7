import CrateDocs.Proofs.Page.Lookup
import CrateDocs.Proofs.Plan
import CrateDocs.Source.Basic

/-!
Finding a name in the documentation of a package. Each lookup goes by the name alone: what it finds
is something that the package documents under the name, and its kind comes from the page. What is
found first is loaded as what it is.
-/

namespace CrateDocs

open Plan

variable {w : World}

theorem Kind.eq_token_of_ofToken {s : String} {k : Kind} (h : Kind.ofToken s = .ok k) :
    s = k.token := by
  unfold Kind.ofToken at h
  split at h
  · next j hj =>
    obtain rfl : j = k := Except.ok.inj h
    have ht := List.find?_some hj
    exact (beq_iff_eq.mp ht).symm
  · cases h

namespace Page

variable {p : Page} {n : Name} {k : Kind}

def HasLink (p : Page) (item link : String) : Prop :=
  ∃ a ∈ p.document.places, a.node.isNamed ["a"] = true ∧ a.node.content = item ∧
    a.node.get? "href" = some link

theorem hasLink_of_findItem? {item link : String} (h : p.findItem? item = some link) :
    p.HasLink item link := by
  obtain ⟨⟨layout, l⟩, hf, rfl⟩ := Option.map_eq_some_iff.mp h
  obtain ⟨y, hy, hl⟩ := List.exists_of_findSome?_eq_some hf
  obtain ⟨layout', cls, rfl⟩ : ∃ layout cls, y = linkLayout layout cls := by
    simp only [itemLayouts, List.mem_cons, List.not_mem_nil, or_false] at hy
    rcases hy with rfl | rfl <;> exact ⟨_, _, rfl⟩
  simp only [linkLayout, Option.map_eq_some_iff, Option.filter_eq_some_iff, Option.bind_eq_some_iff]
    at hl
  obtain ⟨_, ⟨⟨a, ha, hhref⟩, -⟩, he⟩ := hl
  cases he
  have hp := List.find?_some ha
  simp only [Bool.and_eq_true, beq_iff_eq] at hp
  exact ⟨a, List.mem_of_find?_eq_some ha, hp.1.1, hp.2, hhref⟩

/-- Whether a page has the heading of a member: an element with an id for the name, which begins
with the kind. -/
def HasMember (p : Page) (n : Name) (k : Kind) : Prop :=
  ∃ h ∈ p.document.places,
    (∃ j ∈ Kind.members, Selector.hasId (Anchor.text j n.last) h.node = true) ∧
      h.node.anchorToken? = some k.token

theorem hasMember_of_findMember? (hn : ∀ c ∈ n.last.toList, Selector.IsVerbatim c)
    (h : p.findMember? n = .ok (some k)) : p.HasMember n k := by
  rw [findMember?_eq p (Selector.means_verbatim hn)] at h
  split at h
  · cases h
  · next q hq =>
    split at h
    · cases h
    · next t ht =>
      cases hj : Kind.ofToken t with
      | error u =>
        rw [hj] at h
        cases h
      | ok j =>
        rw [hj] at h
        cases h
        have hid := List.find?_some hq
        simp only [List.any_eq_true] at hid
        exact ⟨q, List.mem_of_find?_eq_some hq, hid,
          ht.trans (congrArg some (Kind.eq_token_of_ofToken hj))⟩

theorem name_kind_moduleDoc (p : Page) (n : Name) :
    (p.moduleDoc n).name = n ∧ (p.moduleDoc n).kind = .module := by
  have hf := Doc.name_kind_foldl id (entryGroups p.document n) moduleKinds
    (p.locate none (.leaf n .module none
      ((Layout.first moduleDescriptionLayouts p.document).bind fun f => Prose.ofNode? f.2)))
  have hl := locate_fields p none (.leaf n .module none
    ((Layout.first moduleDescriptionLayouts p.document).bind fun f => Prose.ofNode? f.2))
  exact ⟨hf.1.trans hl.1, hf.2.trans hl.2.1⟩

theorem name_kind_memberDoc {d : Doc} (h : p.memberDoc n k = .ok d) : d.name = n ∧ d.kind = k := by
  cases hm : memberHeading p n k with
  | error e =>
    rw [memberDoc, hm] at h
    cases h
  | ok heading =>
    obtain ⟨hbare, hdeclared⟩ := memberDoc_of_memberHeading hm
    by_cases hd : HasDeclaration heading.node
    · obtain ⟨doc, hdoc, hn, hk, -⟩ := hdeclared hd
      cases hdoc.symm.trans h
      exact ⟨hn, hk⟩
    · cases (hbare hd).symm.trans h

end Page

theorem Ref.ensures_load (r : Ref) :
    Ensures w r.load fun d => d.name = r.name ∧ d.kind = r.kind := by
  refine ensures_of_forall fun page => ensures_of_forall fun _ => ?_
  split
  · exact ensures_of_forall fun _ => ensures_ofExcept fun d => Page.name_kind_memberDoc
  · split
    · next hk =>
      refine ensures_of_forall fun _ => ensures_pure ?_
      rw [hk]
      exact Page.name_kind_moduleDoc page r.name
    · exact ensures_of_forall fun _ => ensures_pure (Page.name_kind_itemDoc page r.name r.kind)

theorem Source.ensures_isFile (p : Path) :
    Ensures w (isFile p) fun b => w (.isFile p) = .ok b := by
  refine ensures_bind (ensures_question ?_)
  cases w (.isFile p) with
  | ok b => exact ensures_pure rfl
  | error f => exact ensures_fail _ _

namespace Crate

variable {c : Crate} {n : Name}

def LinksTo (w : World) (c : Crate) (n : Name) (path : Path) : Prop :=
  ∃ item page link, n.rest? = some item ∧
    ((Source.readPage (c.path.child "all.html")).run w).result = .ok page ∧
    page.HasLink item link ∧ path = c.path.child link

/-- What a package documents a name as: an item has a link to its page, whose name tells the kind, a
module has its page, and a member has its heading on the page of its item. -/
inductive Documents (w : World) (c : Crate) (n : Name) : Kind → Prop
  | item {path : Path} {k : Kind} :
    c.LinksTo w n path → pageKind path = .ok k → Documents w c n k
  | module : w (.isFile (c.modulePage n)) = .ok true → Documents w c n .module
  | member {parent : Name} {path : Path} {page : Page} {k : Kind} :
    n.parent? = some parent → c.LinksTo w parent path →
      ((Source.readPage path).run w).result = .ok page → page.HasMember n k → Documents w c n k

def Finds (w : World) (c : Crate) (n : Name) (r : Ref) : Prop :=
  r.name = n ∧ ((∀ a ∈ n.last.toList, Selector.IsVerbatim a) → c.Documents w n r.kind)

theorem ensures_findItem : Ensures w (c.findItem n) fun o => ∀ r ∈ o,
    r.name = n ∧ c.LinksTo w n r.path ∧ pageKind r.path = .ok r.kind := by
  unfold findItem
  split
  · next item _ hr =>
    refine ensures_of_forall fun b => ?_
    split
    · exact ensures_pure (by simp)
    · refine ensures_bind fun page hpage => ensures_of_forall fun _ => ?_
      split
      · exact ensures_pure (by simp)
      · next link hl =>
        dsimp only
        split
        · exact ensures_of_forall fun _ => ensures_pure (by simp)
        · next k hk =>
          refine ensures_of_forall fun _ => ensures_pure fun r h => ?_
          obtain rfl := Option.mem_some.mp h
          exact ⟨rfl, ⟨item, page, link, hr, hpage, Page.hasLink_of_findItem? hl, rfl⟩, hk⟩
  · exact ensures_pure (by simp)

theorem ensures_findModule :
    Ensures w (c.findModule n) fun o => ∀ r ∈ o, c.Finds w n r := by
  unfold findModule
  split
  · exact ensures_pure (by simp)
  · refine ensures_bind ((Source.ensures_isFile _).mono fun b hb => ?_)
    split
    · exact ensures_pure (by simp)
    · next ht =>
      refine ensures_of_forall fun _ => ensures_pure fun r h => ?_
      obtain rfl := Option.mem_some.mp h
      exact ⟨rfl, fun _ => .module (hb.trans (congrArg Except.ok (by simpa using ht)))⟩

theorem ensures_findMember :
    Ensures w (c.findMember n) fun o => ∀ r ∈ o, c.Finds w n r := by
  unfold findMember
  split
  · exact ensures_pure (by simp)
  · next parent hparent =>
    refine ensures_bind (ensures_findItem.mono fun o ho => ?_)
    split
    · exact ensures_pure (by simp)
    · next item =>
      obtain ⟨-, hlink, -⟩ := ho item rfl
      refine ensures_bind fun page hpage => ensures_bind (ensures_ofExcept fun o ho => ?_)
      split
      · exact ensures_pure (by simp)
      · next k =>
        refine ensures_of_forall fun _ => ensures_pure fun r h => ?_
        obtain rfl := Option.mem_some.mp h
        exact ⟨rfl, fun hn => .member hparent hlink hpage (Page.hasMember_of_findMember? hn ho)⟩

theorem ensures_lookup (hint : Option Kind) :
    ∀ p ∈ c.lookups n hint, Ensures w p fun o => ∀ r ∈ o, c.Finds w n r := by
  have hitem : Ensures w (c.findItem n) fun o => ∀ r ∈ o, c.Finds w n r :=
    ensures_findItem.mono fun o ho r hr =>
      let ⟨hname, hlink, hkind⟩ := ho r hr
      ⟨hname, fun _ => .item hlink hkind⟩
  unfold lookups
  split
  · simp only [List.forall_mem_cons]
    exact ⟨ensures_findMember, hitem, ensures_findModule, List.forall_mem_nil _⟩
  · simp only [List.forall_mem_cons]
    exact ⟨hitem, ensures_findModule, ensures_findMember, List.forall_mem_nil _⟩

end Crate

namespace Sources

theorem ensures_search (s : Sources) (keyword : String) :
    Ensures w (s.search keyword) fun x => x.2.folders = s.folders :=
  ensures_of_forall fun _ => ensures_of_forall fun _ => ensures_pure rfl

def Documents (w : World) (s : Sources) (n : Name) (k : Kind) : Prop :=
  ∃ c, ((s.findCrate n.first).run w).result = .ok (some c) ∧ c.Documents w n k

theorem documents_congr {s t : Sources} (h : s.folders = t.folders) :
    s.Documents w = t.Documents w := by
  funext n k
  rw [Documents, Documents, findCrate, findCrate, h]

theorem ensures_find (s : Sources) (n : Name) (hint : Option Kind) :
    Ensures w (s.find n hint) fun o => ∀ r ∈ o, r.name = n ∧
      ((∀ a ∈ n.last.toList, Selector.IsVerbatim a) → s.Documents w n r.kind) := by
  refine ensures_bind fun o ho => ?_
  cases o with
  | none => exact ensures_of_forall fun _ => ensures_pure (by simp)
  | some c =>
    refine ensures_firstFound.mono fun o hr r hm => ?_
    obtain ⟨p, hp, hpr⟩ := hr r hm
    obtain ⟨hname, hkind⟩ := Crate.ensures_lookup hint p hp (some r) hpr r rfl
    exact ⟨hname, fun hn => ⟨c, ho, hkind hn⟩⟩

end Sources

end CrateDocs
