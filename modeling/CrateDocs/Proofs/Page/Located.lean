import CrateDocs.Page.Item
import CrateDocs.Proofs.Markup.Place
import CrateDocs.Proofs.Page.Listing

/-!
Where on a page the members of an item are. The reading of the members is followed from place to
place, so that each member is known with its heading and with the block that describes it.
-/

namespace CrateDocs.Page

open Markup

/-- What a listing is read from. A heading may be folded in a `details` element. -/
inductive Mark where
  | heading (fold : Option Place) (p : Place)
  | block (p : Place)

def Mark.step : Mark → Step
  | heading _ p => .start p.node.anchorName? (some (definition p.node))
  | block p => .describe (Prose.ofNode? p.node)

/-- A member on a page: the `details` element that it is folded in, its heading, and the block that
describes it. -/
structure PlacedMember where
  kind : Kind
  fold : Option Place
  heading : Place
  block : Option Place

namespace PlacedMember

def doc (parent : Name) (e : PlacedMember) : Doc :=
  .leaf (parent.child (e.heading.node.anchorName?.getD "")) e.kind
    (some (definition e.heading.node)) (e.block.bind fun b => Prose.ofNode? b.node)

end PlacedMember

def blockAfter : List Mark → Option Place
  | .block p :: _ => some p
  | _ => none

/-- The member that a mark starts; a heading without a name starts none. -/
def started? (kind : Kind) : List Mark → Option PlacedMember
  | .heading fold p :: r =>
    if p.node.anchorName?.getD "" = "" then none else some ⟨kind, fold, p, blockAfter r⟩
  | _ => none

def placed (kind : Kind) (marks : List Mark) : List PlacedMember :=
  marks.tails.filterMap (started? kind)

theorem member?_map_step (parent : Name) (kind : Kind) (marks : List Mark) :
    Listing.member? parent kind (marks.map Mark.step) =
      (started? kind marks).map (PlacedMember.doc parent) := by
  cases marks with
  | nil => rfl
  | cons m r =>
    cases m with
    | block p => rfl
    | heading fold p =>
      have hr : Listing.described (r.map Mark.step) =
          (blockAfter r).bind fun b => Prose.ofNode? b.node := by
        cases r with
        | nil => rfl
        | cons m t => cases m <;> rfl
      rw [List.map_cons, Listing.member?, hr, started?, Mark.step]
      cases hn : p.node.anchorName? with
      | none => rfl
      | some n =>
        by_cases he : n = "" <;> simp [Listing.opened, he, PlacedMember.doc, hn]

theorem members_map_step (parent : Name) (kind : Kind) (marks : List Mark) :
    Listing.members parent kind (marks.map Mark.step) =
      (placed kind marks).map (PlacedMember.doc parent) := by
  rw [Listing.members, placed, List.map_filterMap, List.map_tails, List.filterMap_map]
  exact List.filterMap_congr fun l _ => member?_map_step parent kind l

theorem members_collect (parent : Name) (kind : Kind) (title : Option String) {t : Trail Step}
    {marks : List Mark} (h : t.items = marks.map Mark.step) :
    (Listing.collect parent kind title t).items.flatMap MemberGroup.members =
      (placed kind marks).map (PlacedMember.doc parent) := by
  rw [Listing.items_collect, h, members_map_step]
  split
  · next he => rw [he, List.flatMap_nil]
  · rw [List.flatMap_singleton]

def readMarks (read : Place → List Mark × Bool) : List Place → List Mark
  | [] => []
  | p :: r => (read p).1 ++ if (read p).2 then readMarks read r else []

theorem items_readRun {read : Node → Trail Step × Bool} {mark : Place → List Mark × Bool}
    (h : ∀ p : Place, (read p.node).1.items = (mark p).1.map Mark.step ∧
      (read p.node).2 = (mark p).2) (ps : List Place) :
    (readRun read (ps.map Place.node)).items = (readMarks mark ps).map Mark.step := by
  induction ps with
  | nil => rfl
  | cons p r ih =>
    obtain ⟨hi, hm⟩ := h p
    rw [List.map_cons, readRun, readMarks, Trail.items_append, hi, List.map_append, hm]
    cases (mark p).2 with
    | true => rw [if_pos rfl, if_pos rfl, ih]
    | false => rfl

def blockMarks (p : Place) : List Mark × Bool :=
  if p.node.isNamed ["div"] then (if p.node.isDocblock then [.block p] else [], true)
  else ([], false)

def fieldMarks (p : Place) : List Mark × Bool :=
  if p.node.isNamed ["span"] && p.node.hasClass "structfield" then ([.heading none p], true)
  else blockMarks p

def isVariantHeading (n : Node) : Bool :=
  n.isNamed ["div", "section", "h3"] && n.hasClass "variant"

theorem first_variantLayouts (n : Node) :
    Layout.first variantLayouts n =
      if isVariantHeading n then some ("variant heading", n) else none := by
  unfold isVariantHeading
  cases h : n.isNamed ["div", "section", "h3"] && n.hasClass "variant" <;>
    simp only [variantLayouts, Layout.first_cons, h, Bool.false_eq_true, if_false, if_true,
      Layout.first_nil]

def variantMarks (p : Place) : List Mark × Bool :=
  if isVariantHeading p.node then ([.heading none p], true) else blockMarks p

def variantPlaces : List Place → List Place
  | [] => []
  | p :: r =>
    if p.node.isNamed ["div"] && p.node.hasClass "variants" then p.childElements
    else p :: variantPlaces r

theorem items_readBlock (p : Place) :
    (readBlock p.node).1.items = (blockMarks p).1.map Mark.step ∧
      (readBlock p.node).2 = (blockMarks p).2 := by
  unfold readBlock blockMarks
  cases p.node.isNamed ["div"] <;> cases p.node.isDocblock <;> exact ⟨rfl, rfl⟩

theorem items_readField (p : Place) :
    (readField p.node).1.items = (fieldMarks p).1.map Mark.step ∧
      (readField p.node).2 = (fieldMarks p).2 := by
  unfold readField fieldMarks
  split
  · exact ⟨rfl, rfl⟩
  · exact items_readBlock p

theorem items_readVariant (p : Place) :
    (readVariant p.node).1.items = (variantMarks p).1.map Mark.step ∧
      (readVariant p.node).2 = (variantMarks p).2 := by
  unfold readVariant variantMarks
  rw [first_variantLayouts]
  cases isVariantHeading p.node with
  | true => exact ⟨rfl, rfl⟩
  | false => exact items_readBlock p

theorem variantElements_map (ps : List Place) :
    variantElements (ps.map Place.node) = (variantPlaces ps).map Place.node := by
  induction ps with
  | nil => rfl
  | cons p r ih =>
    rw [List.map_cons, variantElements, variantPlaces]
    split
    · exact (Place.map_node_childElements p).symm
    · rw [ih, List.map_cons]

theorem after_eq (p : Place) : after p = p.following.map Place.node :=
  (Place.map_node_following p).symm

def placedFields (d : Document) : List PlacedMember :=
  (d.byId? Kind.field.groupId).toList.flatMap fun h =>
    placed .field (readMarks fieldMarks h.following)

def placedVariants (d : Document) : List PlacedMember :=
  (d.byId? Kind.variant.groupId).toList.flatMap fun h =>
    placed .variant (readMarks variantMarks (variantPlaces h.following))

theorem members_fieldGroups (d : Document) (parent : Name) :
    (fieldGroups d parent).items.flatMap MemberGroup.members =
      (placedFields d).map (PlacedMember.doc parent) := by
  unfold fieldGroups placedFields
  cases d.byId? Kind.field.groupId with
  | none => rfl
  | some h =>
    simp only [Option.toList_some, List.flatMap_singleton, after_eq]
    exact members_collect parent .field none (items_readRun items_readField h.following)

theorem members_variantGroups (d : Document) (parent : Name) :
    (variantGroups d parent).items.flatMap MemberGroup.members =
      (placedVariants d).map (PlacedMember.doc parent) := by
  unfold variantGroups placedVariants
  cases d.byId? Kind.variant.groupId with
  | none => rfl
  | some h =>
    simp only [Option.toList_some, List.flatMap_singleton, after_eq, variantElements_map]
    exact members_collect parent .variant none
      (items_readRun items_readVariant (variantPlaces h.following))

def isMemberHeading (n : Node) : Bool := (Layout.first memberLayouts n).isSome

theorem exists_of_first {α β : Type} {l : List (Layout α β)} {a : α} {b : β} {name : String}
    (h : Layout.first l a = some (name, b)) : ∃ y ∈ l, y.find a = some b := by
  obtain ⟨y, hy, hb⟩ := List.exists_of_findSome?_eq_some h
  obtain ⟨c, hc, he⟩ := Option.map_eq_some_iff.mp hb
  cases he
  exact ⟨y, hy, hc⟩

theorem eq_of_first_memberLayouts {n h : Node} {layout : String}
    (hf : Layout.first memberLayouts n = some (layout, h)) : h = n := by
  obtain ⟨y, hy, hh⟩ := exists_of_first hf
  simp only [memberLayouts, List.mem_cons, List.not_mem_nil, or_false] at hy
  rcases hy with rfl | rfl <;>
  · obtain ⟨-, he⟩ := Option.ite_none_right_eq_some.mp hh
    exact (Option.some.inj he).symm

def foldedMarks (p : Place) : List Mark :=
  (((p.descendants.find? fun s => s.node.isNamed ["summary"]).bind fun s =>
      s.descendants.find? fun q => q.node.isNamed ["div", "section"] && isMemberHeading q.node).map
    (Mark.heading (some p))).toList ++
  ((p.descendants.find? fun b => b.node.isNamed ["div"] && b.node.isDocblock).map Mark.block).toList

def memberMarks (p : Place) : List Mark :=
  if isMemberHeading p.node then [.heading none p]
  else if p.node.isNamed ["div"] && p.node.isDocblock then [.block p]
  else if p.node.isNamed ["details"] then foldedMarks p
  else []

def placedIn (kind : Kind) (container : Place) : List PlacedMember :=
  placed kind (container.childElements.flatMap memberMarks)

theorem search_node (p : Place) (q : Node → Bool) :
    p.node.search q = (p.descendants.find? fun r => q r.node).map Place.node := by
  rw [Node.search, ← Place.map_node_descendants, List.find?_map]
  rfl

theorem items_startWithin (ps : List Place) :
    (startWithin (ps.map Place.node)).items =
      ((ps.find? fun q => isMemberHeading q.node).map fun q =>
        (Mark.heading none q).step).toList := by
  induction ps with
  | nil => rfl
  | cons p r ih =>
    rw [List.map_cons, startWithin, List.find?_cons, isMemberHeading]
    cases hf : Layout.first memberLayouts p.node with
    | none => exact ih
    | some f =>
      obtain ⟨layout, h⟩ := f
      obtain rfl : h = p.node := eq_of_first_memberLayouts hf
      rfl

theorem items_readDetails (p : Place) :
    (readDetails p.node).items = (foldedMarks p).map Mark.step := by
  rw [readDetails, foldedMarks, Trail.items_append, List.map_append, search_node, search_node]
  refine congrArg₂ (· ++ ·) ?_ ?_
  · cases p.descendants.find? fun s => s.node.isNamed ["summary"] with
    | none => rfl
    | some s =>
      have hs : (s.node.descendants.filter fun m => m.isNamed ["div", "section"]) =
          (s.descendants.filter fun q => q.node.isNamed ["div", "section"]).map Place.node := by
        rw [← Place.map_node_descendants, List.filter_map]
        rfl
      have hm (o : Option Place) : (o.map fun q => (Mark.heading none q).step).toList =
          (o.map (Mark.heading (some p))).toList.map Mark.step := by
        cases o <;> rfl
      simp only [Option.map_some, Option.bind_some, hs, items_startWithin, List.find?_filter,
        Bool.decide_and, Bool.decide_eq_true, hm]
  · cases p.descendants.find? fun b => b.node.isNamed ["div"] && b.node.isDocblock <;> rfl

theorem items_readMember (p : Place) :
    (readMember p.node).items = (memberMarks p).map Mark.step := by
  unfold readMember memberMarks isMemberHeading
  cases hf : Layout.first memberLayouts p.node with
  | some f =>
    obtain ⟨layout, h⟩ := f
    obtain rfl : h = p.node := eq_of_first_memberLayouts hf
    rfl
  | none =>
    simp only [Option.isSome_none, Bool.false_eq_true, if_false, Trail.items_append,
      Trail.items_note, List.nil_append]
    split
    · rfl
    · split
      · exact items_readDetails p
      · rfl

theorem items_readMembers (p : Place) :
    Trail.items (p.node.childElements.flatMap readMember) =
      (p.childElements.flatMap memberMarks).map Mark.step := by
  rw [Trail.items_flatMap, ← Place.map_node_childElements, List.flatMap_map, List.map_flatMap]
  simp only [items_readMember]

theorem members_memberGroup (parent : Name) (kind : Kind) (title : Option String) (p : Place) :
    (memberGroup parent kind title p.node).items.flatMap MemberGroup.members =
      (placedIn kind p).map (PlacedMember.doc parent) :=
  members_collect parent kind title (items_readMembers p)

def blockContainers (layouts : List (Layout Node BlockHeading)) (lenient : Bool) (taken : Bool) :
    List Place → List Place
  | [] => []
  | p :: r =>
    if taken then blockContainers layouts lenient false r
    else
      match Layout.first layouts p.node with
      | none => if lenient then blockContainers layouts lenient false r else []
      | some (_, .plain _) =>
        if (itemsOf? (r.head?.map Place.node)).isSome then
          r.head?.toList ++ blockContainers layouts lenient true r
        else blockContainers layouts lenient false r
      | some (_, .summarized _ _) =>
        (p.childElements.tail.head?.filter fun c => (itemsOf? (some c.node)).isSome).toList ++
          blockContainers layouts lenient false r

theorem next_of_summarized {layouts : List (Layout Node BlockHeading)}
    (hl : layouts = blockLayouts ∨ layouts = [summarizedLayout]) {n h : Node} {next : Option Node}
    {layout : String} (hf : Layout.first layouts n = some (layout, .summarized h next)) :
    next = n.childElements.tail.head? := by
  -- Of the two layouts only this one gives a heading with a summary.
  have hs : summarizedLayout.find n = some (.summarized h next) := by
    obtain ⟨y, hy, hb⟩ := exists_of_first hf
    rcases hl with rfl | rfl
    · rcases List.mem_cons.mp hy with rfl | hy
      · obtain ⟨-, he⟩ := Option.ite_none_right_eq_some.mp hb
        cases he
      · obtain rfl := List.mem_singleton.mp hy
        exact hb
    · obtain rfl := List.mem_singleton.mp hy
      exact hb
  obtain ⟨⟨s, t⟩, hst, ht⟩ := Option.bind_eq_some_iff.mp hs
  obtain ⟨k, -, hk⟩ := Option.map_eq_some_iff.mp ht
  obtain ⟨rfl, rfl⟩ := BlockHeading.summarized.inj hk
  unfold summary? at hst
  split at hst
  · split at hst
    · next he =>
      cases hst
      rw [he, List.tail_cons]
    · cases hst
  · cases hst

theorem eq_of_itemsOf? {next : Option Node} {items : Node} (h : itemsOf? next = some items) :
    next = some items :=
  (Option.filter_eq_some_iff.mp h).1

theorem members_blockGroups (parent : Name) (kind : Kind)
    {layouts : List (Layout Node BlockHeading)}
    (hl : layouts = blockLayouts ∨ layouts = [summarizedLayout]) (lenient taken : Bool)
    (ps : List Place) :
    (blockGroups parent kind layouts lenient taken (ps.map Place.node)).items.flatMap
        MemberGroup.members =
      ((blockContainers layouts lenient taken ps).flatMap (placedIn kind)).map
        (PlacedMember.doc parent) := by
  -- By induction on the elements. `taken` tells whether an element has been read as the items of the
  -- heading before it, so that it changes from one element to the next.
  induction ps generalizing taken with
  | nil => rfl
  | cons p r ih =>
    rw [List.map_cons, blockGroups, blockContainers]
    split
    · exact ih false
    · simp only [Trail.items_append, Trail.items_note, List.nil_append]
      cases hf : Layout.first layouts p.node with
      | none =>
        cases lenient with
        | true => exact ih false
        | false => rfl
      | some f =>
        obtain ⟨layout, b⟩ := f
        cases b with
        | plain h =>
          simp only [List.head?_map]
          cases hi : itemsOf? (r.head?.map Place.node) with
          | none => exact ih false
          | some items =>
            obtain ⟨c, hc, rfl⟩ := Option.map_eq_some_iff.mp (eq_of_itemsOf? hi)
            simp only [hc, Option.isSome_some, if_true, Trail.items_append, List.flatMap_append,
              List.map_append, ih, Option.toList_some, List.flatMap_singleton,
              members_memberGroup]
        | summarized h next =>
          obtain rfl := next_of_summarized hl hf
          simp only [Trail.items_append, List.flatMap_append, List.map_append, ih]
          refine congrArg (· ++ _) ?_
          rw [← Place.map_node_childElements, ← List.map_tail, List.head?_map]
          cases p.childElements.tail.head? with
          | none => rfl
          | some c =>
            rw [Option.map_some, Option.filter_some]
            cases hi : itemsOf? (some c.node) with
            | none => rfl
            | some items =>
              obtain rfl := Option.some.inj (eq_of_itemsOf? hi)
              simp only [Option.isSome_some, if_true, Option.toList_some, List.flatMap_singleton,
                members_memberGroup]

def sectionContainers (heading : Place) : List Place :=
  match heading.following with
  | [] => []
  | n :: r =>
    if n.node.id? = some "implementations-list" then
      blockContainers [summarizedLayout] true false n.childElements
    else blockContainers blockLayouts false false (n :: r)

theorem members_sectionGroups (parent : Name) (heading : Place) :
    (sectionGroups parent heading).items.flatMap MemberGroup.members =
      ((sectionContainers heading).flatMap (placedIn .method)).map (PlacedMember.doc parent) := by
  unfold sectionGroups sectionContainers
  rw [after_eq]
  cases heading.following with
  | nil => rfl
  | cons n r =>
    simp only [List.map_cons]
    split
    · rw [← Place.map_node_childElements]
      exact members_blockGroups parent .method (.inr rfl) true false n.childElements
    · exact members_blockGroups parent .method (.inl rfl) false false (n :: r)

def headedContainers (headings : List Place) : List Place :=
  headings.flatMap fun h => h.next?.toList

theorem members_headedGroups (parent : Name) (kind : Kind) (title : Node → Option String)
    (headings : List Place) :
    (headedGroups parent kind title headings).items.flatMap MemberGroup.members =
      ((headedContainers headings).flatMap (placedIn kind)).map (PlacedMember.doc parent) := by
  rw [headedGroups, headedContainers, Trail.items_flatMap, List.flatMap_assoc, List.flatMap_assoc,
    List.map_flatMap]
  refine congrArg headings.flatMap (funext fun h => ?_)
  rw [after_eq, List.head?_map, Place.next?]
  cases h.following.head? with
  | none => rfl
  | some n =>
    simp only [Option.map_some, Option.toList_some, List.flatMap_singleton, members_memberGroup]

def placedMethods (d : Document) : List PlacedMember :=
  ((blockSections.flatMap fun id => (d.byId? id).toList.flatMap sectionContainers) ++
      headedContainers (d.places.filter fun p => isDerefHeading p.node)).flatMap
    (placedIn .method) ++
  (headedContainers (withId "required-methods" d)).flatMap (placedIn .requiredMethod) ++
  (headedContainers (withId "provided-methods" d)).flatMap (placedIn .method)

theorem members_methodGroups (d : Document) (parent : Name) :
    (methodGroups d parent).items.flatMap MemberGroup.members =
      (placedMethods d).map (PlacedMember.doc parent) := by
  simp only [methodGroups, placedMethods, Trail.items_append, Trail.items_flatMap,
    List.flatMap_append, List.map_append, members_headedGroups, List.flatMap_assoc,
    List.map_flatMap]
  refine congrArg (fun l => l ++ _ ++ _ ++ _) (congrArg blockSections.flatMap (funext fun id => ?_))
  cases d.byId? id with
  | none => rfl
  | some h =>
    have hm := members_sectionGroups parent h
    rw [List.map_flatMap] at hm
    rw [Option.toList_some, List.flatMap_singleton]
    exact hm

def placedAssocTypes (d : Document) : List PlacedMember :=
  (assocTypeSections.flatMap fun id => headedContainers (d.byId? id).toList).flatMap
    (placedIn .assocType)

theorem members_assocTypeGroups (d : Document) (parent : Name) :
    (assocTypeGroups d parent).items.flatMap MemberGroup.members =
      (placedAssocTypes d).map (PlacedMember.doc parent) := by
  simp only [assocTypeGroups, placedAssocTypes, Trail.items_flatMap, List.flatMap_assoc,
    List.map_flatMap, members_headedGroups]

def placedMembers (k : Kind) (d : Document) : List PlacedMember :=
  match k with
  | .field => placedFields d
  | .variant => placedVariants d
  | .assocType => placedAssocTypes d
  | .method => placedMethods d
  | _ => []

section Listings

variable {d : Document} {p q : Place} {ps : List Place} {e : PlacedMember} {kind : Kind}

/-- What is read from an element where members of a kind are listed, and whether the listing goes
on after it. -/
def reading : Kind → Place → List Mark × Bool
  | .field => fieldMarks
  | .variant => variantMarks
  | _ => fun p => (memberMarks p, true)

inductive IsListing (d : Document) : Kind → List Place → Prop
  | fields {h : Place} : h ∈ d.places → IsListing d .field h.following
  | variants {h : Place} : d.byId? Kind.variant.groupId = some h →
    IsListing d .variant (variantPlaces h.following)
  | members {k : Kind} {c : Place} : k ≠ .field → k ≠ .variant → c ∈ d.places →
    IsListing d k c.childElements

def IsListed (d : Document) (e : PlacedMember) : Prop :=
  ∃ kind ps, IsListing d kind ps ∧ e ∈ placed kind (readMarks (reading kind) ps)

theorem readMarks_true (f : Place → List Mark) (ps : List Place) :
    readMarks (fun p => (f p, true)) ps = ps.flatMap f := by
  induction ps with
  | nil => rfl
  | cons p r ih =>
    rw [readMarks, List.flatMap_cons, if_pos rfl, ih]

theorem reading_eq_memberMarks (hf : kind ≠ .field) (hv : kind ≠ .variant) :
    reading kind = fun p => (memberMarks p, true) := by
  unfold reading
  split
  · exact absurd rfl hf
  · exact absurd rfl hv
  · rfl

theorem isListed_of_mem_placedIn (hf : kind ≠ .field) (hv : kind ≠ .variant) (hp : p ∈ d.places)
    (h : e ∈ placedIn kind p) : IsListed d e :=
  ⟨kind, _, .members hf hv hp, by rwa [reading_eq_memberMarks hf hv, readMarks_true]⟩

theorem mem_places_of_byId? {id : String} (h : p ∈ (d.byId? id).toList) : p ∈ d.places :=
  List.mem_of_find?_eq_some (Option.mem_toList.mp h)

theorem childElements_subset_places (hp : p ∈ d.places) (h : q ∈ p.childElements) :
    q ∈ d.places :=
  Document.descendants_subset_places hp (Place.mem_descendants_of_child h)

theorem mem_blockContainers {layouts : List (Layout Node BlockHeading)} {lenient taken : Bool}
    (hps : ∀ p ∈ ps, p ∈ d.places) (h : q ∈ blockContainers layouts lenient taken ps) :
    q ∈ d.places := by
  induction ps generalizing taken with
  | nil => cases h
  | cons p r ih =>
    obtain ⟨hp, hr⟩ := List.forall_mem_cons.mp hps
    rw [blockContainers] at h
    split at h
    · exact ih hr h
    · split at h
      · split at h
        · exact ih hr h
        · cases h
      · split at h
        · rcases List.mem_append.mp h with h | h
          · exact hr q (List.mem_of_mem_head? (Option.mem_toList.mp h))
          · exact ih hr h
        · exact ih hr h
      · rcases List.mem_append.mp h with h | h
        · have hc := (Option.filter_eq_some_iff.mp (Option.mem_toList.mp h)).1
          exact childElements_subset_places hp
            (List.mem_of_mem_tail (List.mem_of_mem_head? hc))
        · exact ih hr h

theorem mem_sectionContainers (hp : p ∈ d.places) (h : q ∈ sectionContainers p) :
    q ∈ d.places := by
  unfold sectionContainers at h
  have hf {r : Place} (hr : r ∈ p.following) : r ∈ d.places :=
    Document.following_subset_places hp hr
  split at h
  · cases h
  · next n r he =>
    rw [he] at hf
    split at h
    · exact mem_blockContainers
        (fun c hc => childElements_subset_places (hf List.mem_cons_self) hc) h
    · exact mem_blockContainers (fun c hc => hf hc) h

theorem mem_headedContainers (hps : ∀ p ∈ ps, p ∈ d.places) (h : q ∈ headedContainers ps) :
    q ∈ d.places := by
  obtain ⟨p, hp, hq⟩ := List.mem_flatMap.mp h
  exact Document.following_subset_places (hps p hp)
    (List.mem_of_mem_head? (Option.mem_toList.mp hq))

theorem isListed_of_mem_placedMethods (h : e ∈ placedMethods d) : IsListed d e := by
  simp only [placedMethods, List.mem_append, List.mem_flatMap] at h
  rcases h with (⟨c, ⟨id, -, r, hr, hc⟩ | hc, he⟩ | ⟨c, hc, he⟩) | ⟨c, hc, he⟩
  · exact isListed_of_mem_placedIn (by decide) (by decide)
      (mem_sectionContainers (mem_places_of_byId? hr) hc) he
  all_goals
    exact isListed_of_mem_placedIn (by decide) (by decide)
      (mem_headedContainers (fun p hp => List.mem_of_mem_filter hp) hc) he

theorem isListed_of_mem_placedMembers (h : e ∈ placedMembers kind d) : IsListed d e := by
  unfold placedMembers at h
  split at h
  · obtain ⟨r, hr, he⟩ := List.mem_flatMap.mp h
    exact ⟨_, _, .fields (mem_places_of_byId? hr), he⟩
  · obtain ⟨r, hr, he⟩ := List.mem_flatMap.mp h
    exact ⟨_, _, .variants (Option.mem_toList.mp hr), he⟩
  · simp only [placedAssocTypes, List.mem_flatMap] at h
    obtain ⟨c, ⟨id, -, hc⟩, he⟩ := h
    exact isListed_of_mem_placedIn (by decide) (by decide)
      (mem_headedContainers (fun p hp => mem_places_of_byId? hp) hc) he
  · exact isListed_of_mem_placedMethods h
  · cases h

end Listings

section Headings

variable {d : Document} {p q : Place} {ps : List Place} {e : PlacedMember} {kind : Kind}
  {fold : Option Place} {marks : List Mark}

theorem kind_of_mem_placed (h : e ∈ placed kind marks) : e.kind = kind := by
  obtain ⟨l, -, he⟩ := List.mem_filterMap.mp h
  unfold started? at he
  split at he
  · obtain ⟨-, he⟩ := Option.ite_none_left_eq_some.mp he
    cases he
    rfl
  · cases he

theorem heading_mem_of_mem_placed (h : e ∈ placed kind marks) :
    .heading e.fold e.heading ∈ marks := by
  obtain ⟨l, hl, he⟩ := List.mem_filterMap.mp h
  have hs : l <:+ marks := (List.mem_tails l marks).mp hl
  cases l with
  | nil => cases he
  | cons m r =>
    cases m with
    | block b => cases he
    | heading fold q =>
      obtain ⟨-, he⟩ := Option.ite_none_left_eq_some.mp he
      cases he
      exact hs.subset List.mem_cons_self

theorem mem_readMarks {read : Place → List Mark × Bool} {m : Mark} (h : m ∈ readMarks read ps) :
    ∃ p ∈ ps, m ∈ (read p).1 := by
  induction ps with
  | nil => cases h
  | cons p r ih =>
    rw [readMarks] at h
    rcases List.mem_append.mp h with h | h
    · exact ⟨p, List.mem_cons_self, h⟩
    · split at h
      · obtain ⟨q, hq, hm⟩ := ih h
        exact ⟨q, List.mem_cons_of_mem _ hq, hm⟩
      · cases h

theorem heading_not_mem_blockMarks : .heading fold q ∉ (blockMarks p).1 := by
  unfold blockMarks
  split
  · split <;> simp
  · simp

theorem eq_of_heading_mem_fieldMarks (h : .heading fold q ∈ (fieldMarks p).1) : q = p := by
  unfold fieldMarks at h
  split at h
  · cases List.mem_singleton.mp h
    rfl
  · exact absurd h heading_not_mem_blockMarks

theorem eq_of_heading_mem_variantMarks (h : .heading fold q ∈ (variantMarks p).1) : q = p := by
  unfold variantMarks at h
  split at h
  · cases List.mem_singleton.mp h
    rfl
  · exact absurd h heading_not_mem_blockMarks

theorem mem_variantPlaces (h : q ∈ variantPlaces ps) : q ∈ ps ∨ ∃ p ∈ ps, q ∈ p.childElements := by
  induction ps with
  | nil => cases h
  | cons p r ih =>
    rw [variantPlaces] at h
    split at h
    · exact .inr ⟨p, List.mem_cons_self, h⟩
    · rcases List.mem_cons.mp h with rfl | h
      · exact .inl List.mem_cons_self
      · rcases ih h with h | ⟨p', hp, hq⟩
        · exact .inl (List.mem_cons_of_mem _ h)
        · exact .inr ⟨p', List.mem_cons_of_mem _ hp, hq⟩

theorem heading_mem_foldedMarks (h : .heading fold q ∈ foldedMarks p) : q ∈ p.descendants := by
  rcases List.mem_append.mp h with h | h
  · obtain ⟨r, hr, he⟩ := Option.map_eq_some_iff.mp (Option.mem_toList.mp h)
    cases he
    obtain ⟨s, hs, hf⟩ := Option.bind_eq_some_iff.mp hr
    exact Place.descendants_subset (List.mem_of_find?_eq_some hs) (List.mem_of_find?_eq_some hf)
  · obtain ⟨r, -, he⟩ := Option.map_eq_some_iff.mp (Option.mem_toList.mp h)
    cases he

theorem heading_mem_memberMarks (h : .heading fold q ∈ memberMarks p) :
    q = p ∨ q ∈ p.descendants := by
  unfold memberMarks at h
  split at h
  · cases List.mem_singleton.mp h
    exact .inl rfl
  · split at h
    · cases List.mem_singleton.mp h
    · split at h
      · exact .inr (heading_mem_foldedMarks h)
      · cases h

theorem heading_mem_of_isListed (h : IsListed d e) : e.heading ∈ d.places := by
  obtain ⟨kind, ps, hl, he⟩ := h
  obtain ⟨p, hp, hm⟩ := mem_readMarks (heading_mem_of_mem_placed he)
  cases hl with
  | fields hh =>
    rw [eq_of_heading_mem_fieldMarks hm]
    exact Document.following_subset_places hh hp
  | @variants h hh =>
    have hf {r : Place} (hr : r ∈ h.following) : r ∈ d.places :=
      Document.following_subset_places (List.mem_of_find?_eq_some hh) hr
    rw [eq_of_heading_mem_variantMarks hm]
    rcases mem_variantPlaces hp with hp | ⟨r, hr, hp⟩
    · exact hf hp
    · exact childElements_subset_places (hf hr) hp
  | members hf hv hc =>
    have hp := childElements_subset_places hc hp
    rw [reading_eq_memberMarks hf hv] at hm
    rcases heading_mem_memberMarks hm with he | hd
    · exact he ▸ hp
    · exact Document.descendants_subset_places hp hd

end Headings

end CrateDocs.Page
