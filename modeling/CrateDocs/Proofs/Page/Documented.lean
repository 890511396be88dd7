import CrateDocs.Proofs.Page.Blocks
import Mathlib.Data.List.Flatten

/-!
Blocks of implementations that are documented themselves. The documentation is shown between the
heading of a block and its items, where the items are looked for: in details the block is lost, and
beside each other all blocks from this one on are.
-/

namespace CrateDocs.Page

open Markup

/-- How a section shows its blocks: headings with their items beside them, details beside each
other, or details in a list. -/
inductive Arrangement where
  | beside
  | folded
  | listed

def Arrangement.IsTitle (heading title : Node) : Arrangement → Prop
  | beside => isImplHeading heading = true ∧ heading = title
  | folded => heading.search (fun n => n.isNamed ["h3"]) = some title
  | listed => heading.search (fun n => n.isNamed ["h3"]) = some title

def IsItems (n : Node) : Prop := n.isNamed ["div"] = true ∧ n.hasClass "impl-items" = true

def IsDocumentation (n : Node) : Prop :=
  n.isNamed ["div"] = true ∧ n.isDocblock = true ∧ n.hasClass "impl-items" = false

instance (n : Node) : Decidable (IsItems n) := inferInstanceAs (Decidable (_ ∧ _))

instance (n : Node) : Decidable (IsDocumentation n) := inferInstanceAs (Decidable (_ ∧ _))

/-- A block of implementations on a page: a heading or a summary, then its documentation, if it has
one, and its items. -/
structure ShownBlock (a : Arrangement) where
  heading : Node
  title : Node
  documentation : Option Node
  items : Node
  isTitle : a.IsTitle heading title
  isItems : IsItems items
  isDocumentation : ∀ n ∈ documentation, IsDocumentation n

namespace ShownBlock

variable {a : Arrangement}

def elements (b : ShownBlock a) : List Node := b.heading :: (b.documentation.toList ++ [b.items])

def isDocumented (b : ShownBlock a) : Bool := b.documentation.isSome

def undocumented (b : ShownBlock a) : ShownBlock a :=
  { b with
    documentation := none
    isDocumentation := by simp }

def groups (parent : Name) (b : ShownBlock a) : List (MemberGroup Doc) :=
  (memberGroup parent .method (some (blockTitle b.title)) b.items).items

def IsFolded (b : ShownBlock a) (n : Node) : Prop :=
  n.isNamed ["details"] = true ∧ ∃ more, n.childElements = b.elements ++ more

end ShownBlock

namespace Arrangement

variable {a : Arrangement}

def Shows (l : List Node) : (a : Arrangement) → List (ShownBlock a) → Prop
  | beside, blocks => l = blocks.flatMap ShownBlock.elements
  | folded, blocks => List.Forall₂ ShownBlock.IsFolded blocks l
  | listed, blocks =>
    List.Forall₂ ShownBlock.IsFolded blocks (l.filter fun n => n.isNamed ["details"])

/-- What comes after the heading of a section: the list of the blocks, or the blocks and then
something that is no heading of another one. -/
def IsSection (h : Place) : (a : Arrangement) → List (ShownBlock a) → Prop
  | listed, blocks => ∃ n ∈ (after h).head?, n.id? = some "implementations-list" ∧
      listed.Shows n.childElements blocks
  | a, blocks => ∃ front rest, after h = front ++ rest ∧ a.Shows front blocks ∧
      (∀ n ∈ (after h).head?, n.id? ≠ some "implementations-list") ∧
      ∀ n ∈ rest.head?, n.isNamed ["h3", "details"] = false

/-- The blocks whose methods are read. -/
def kept : (a : Arrangement) → List (ShownBlock a) → List (ShownBlock a)
  | beside, blocks => blocks.takeWhile fun b => !b.isDocumented
  | _, blocks => blocks.filter fun b => !b.isDocumented

def lost : (a : Arrangement) → List (ShownBlock a) → List (ShownBlock a)
  | beside, blocks => blocks.dropWhile fun b => !b.isDocumented
  | _, blocks => blocks.filter ShownBlock.isDocumented

end Arrangement

namespace ShownBlock

variable {a : Arrangement} {n : Node} {r : List Node}

theorem itemsOf?_items (b : ShownBlock a) : itemsOf? (some b.items) = some b.items :=
  itemsOf?_eq_some b.isItems.1 b.isItems.2

theorem itemsOf?_documentation (b : ShownBlock a) (hd : b.documentation = some n) :
    itemsOf? (some n) = none := by
  obtain ⟨-, -, hc⟩ := b.isDocumentation n hd
  simp [itemsOf?, hc]

theorem search_title (b : ShownBlock a) (ha : a ≠ .beside) :
    b.heading.search (fun n => n.isNamed ["h3"]) = some b.title := by
  have h := b.isTitle
  cases a with
  | beside => exact absurd rfl ha
  | folded => exact h
  | listed => exact h

theorem itemsOf?_next (b : ShownBlock a) (more : List Node) :
    itemsOf? (b.documentation.toList ++ [b.items] ++ more).head? =
      if b.isDocumented then none else some b.items := by
  unfold isDocumented
  cases hd : b.documentation with
  | none => exact b.itemsOf?_items
  | some n => exact b.itemsOf?_documentation hd

end ShownBlock

section Walk

variable {n : Node} {r : List Node} {layouts : List (Layout Node BlockHeading)} {lenient : Bool}

theorem items_blockGroups_beside (parent : Name) (blocks : List (ShownBlock .beside))
    (hend : ∀ n ∈ r.head?, n.isNamed ["h3", "details"] = false) :
    (blockGroups parent .method blockLayouts false false
        (blocks.flatMap ShownBlock.elements ++ r)).items =
      (blocks.takeWhile fun b => !b.isDocumented).flatMap (ShownBlock.groups parent) := by
  induction blocks with
  | nil => exact items_blockGroups_end parent hend
  | cons b bs ih =>
    obtain ⟨himpl, htitle⟩ := b.isTitle
    rw [List.flatMap_cons, List.append_assoc, ShownBlock.elements]
    cases hd : b.documentation with
    | none =>
      have hu : (!b.isDocumented) = true := by simp [ShownBlock.isDocumented, hd]
      rw [List.takeWhile_cons, if_pos hu, List.flatMap_cons, ← ih, ShownBlock.groups, ← htitle]
      exact items_blockGroups_plain parent himpl b.itemsOf?_items
    | some n =>
      have hu : ¬(!b.isDocumented) = true := by simp [ShownBlock.isDocumented, hd]
      obtain ⟨hn, -⟩ := b.isDocumentation n hd
      rw [List.takeWhile_cons, if_neg hu, List.flatMap_nil]
      -- The documentation stands where the items should be, and as it is no heading it also ends
      -- the list.
      have hnext : itemsOf? (n :: b.items :: (bs.flatMap ShownBlock.elements ++ r)).head? = none :=
        b.itemsOf?_documentation hd
      refine (items_blockGroups_plain_other parent himpl hnext).trans ?_
      refine items_blockGroups_end parent fun m hm => ?_
      obtain rfl : n = m := Option.some.inj hm
      rw [Node.isNamed_of_name? (Node.name?_of_isNamed hn)]
      rfl

theorem items_blockGroups_details (parent : Name) {a : Arrangement} (ha : a ≠ .beside)
    (hl : layouts = blockLayouts ∨ layouts = [summarizedLayout]) {b : ShownBlock a}
    (h : b.IsFolded n) :
    (blockGroups parent .method layouts lenient false (n :: r)).items =
      (if b.isDocumented then [] else b.groups parent) ++
        (blockGroups parent .method layouts lenient false r).items := by
  obtain ⟨hn, more, hc⟩ := h
  have hnext : n.childElements = b.heading :: (b.documentation.toList ++ [b.items] ++ more) := hc
  have hfind := find_summarizedLayout hn hnext (b.search_title ha)
  rw [items_blockGroups_summarized parent hl hn hfind, b.itemsOf?_next more]
  cases b.isDocumented <;> rfl

theorem flatMap_filter_cons {a : Arrangement} (parent : Name) (b : ShownBlock a)
    (bs : List (ShownBlock a)) :
    ((b :: bs).filter fun b => !b.isDocumented).flatMap (ShownBlock.groups parent) =
      (if b.isDocumented then [] else b.groups parent) ++
        (bs.filter fun b => !b.isDocumented).flatMap (ShownBlock.groups parent) := by
  cases h : b.isDocumented <;> simp [h]

theorem items_blockGroups_folded (parent : Name) {blocks : List (ShownBlock .folded)}
    {l : List Node} (h : List.Forall₂ ShownBlock.IsFolded blocks l)
    (hend : ∀ n ∈ r.head?, n.isNamed ["h3", "details"] = false) :
    (blockGroups parent .method blockLayouts false false (l ++ r)).items =
      (blocks.filter fun b => !b.isDocumented).flatMap (ShownBlock.groups parent) := by
  induction h with
  | nil => exact items_blockGroups_end parent hend
  | cons hb _ ih =>
    rw [List.cons_append, items_blockGroups_details parent (by simp) (.inl rfl) hb, ih,
      flatMap_filter_cons]

theorem items_blockGroups_other (parent : Name) (hn : n.isNamed ["details"] = false) :
    (blockGroups parent .method [summarizedLayout] true false (n :: r)).items =
      (blockGroups parent .method [summarizedLayout] true false r).items := by
  have hf : Layout.first [summarizedLayout] n = none := by
    simp [Layout.first_cons, summarizedLayout, summary?, hn]
  simp [blockGroups, hf]

theorem items_blockGroups_listed (parent : Name) {blocks : List (ShownBlock .listed)}
    {l : List Node}
    (h : List.Forall₂ ShownBlock.IsFolded blocks (l.filter fun n => n.isNamed ["details"])) :
    (blockGroups parent .method [summarizedLayout] true false l).items =
      (blocks.filter fun b => !b.isDocumented).flatMap (ShownBlock.groups parent) := by
  induction l generalizing blocks with
  | nil =>
    obtain rfl := List.forall₂_nil_right_iff.mp h
    rfl
  | cons n r ih =>
    cases hn : n.isNamed ["details"] with
    | true =>
      rw [List.filter_cons_of_pos hn] at h
      obtain ⟨b, bs, hb, hbs, rfl⟩ := List.forall₂_cons_right_iff.mp h
      rw [items_blockGroups_details parent (by simp) (.inr rfl) hb, ih hbs, flatMap_filter_cons]
    | false =>
      rw [List.filter_cons_of_neg (by simp [hn])] at h
      rw [items_blockGroups_other parent hn, ih h]

end Walk

theorem items_sectionGroups_kept (parent : Name) {a : Arrangement} {blocks : List (ShownBlock a)}
    {h : Place} (hs : a.IsSection h blocks) :
    (sectionGroups parent h).items = (a.kept blocks).flatMap (ShownBlock.groups parent) := by
  cases a with
  | beside =>
    obtain ⟨front, rest, ha, rfl, hid, hend⟩ := hs
    rw [sectionGroups_beside parent hid, ha, items_blockGroups_beside parent blocks hend]
    rfl
  | folded =>
    obtain ⟨front, rest, ha, hshows, hid, hend⟩ := hs
    rw [sectionGroups_beside parent hid, ha, items_blockGroups_folded parent hshows hend]
    rfl
  | listed =>
    obtain ⟨n, hn, hid, hshows⟩ := hs
    obtain ⟨r, hr⟩ := List.head?_eq_some_iff.mp hn
    simp only [sectionGroups, hr, hid, if_true]
    exact items_blockGroups_listed parent hshows

namespace Arrangement

variable {a : Arrangement}

theorem kept_sublist (a : Arrangement) (blocks : List (ShownBlock a)) :
    (a.kept blocks).Sublist blocks := by
  cases a with
  | beside => exact (List.takeWhile_prefix _).sublist
  | folded => exact List.filter_sublist
  | listed => exact List.filter_sublist

theorem kept_append_lost_perm (a : Arrangement) (blocks : List (ShownBlock a)) :
    (a.kept blocks ++ a.lost blocks).Perm blocks := by
  have hfilter : ((blocks.filter fun b => !b.isDocumented) ++
      blocks.filter ShownBlock.isDocumented).Perm blocks := by
    have h := List.filter_append_perm (fun b : ShownBlock a => !b.isDocumented) blocks
    simpa only [Bool.not_not] using h
  cases a with
  | beside => exact .of_eq List.takeWhile_append_dropWhile
  | folded => exact hfilter
  | listed => exact hfilter

theorem kept_undocumented (blocks : List (ShownBlock a)) :
    a.kept (blocks.map ShownBlock.undocumented) = blocks.map ShownBlock.undocumented := by
  have h : ∀ b ∈ blocks.map ShownBlock.undocumented, (!b.isDocumented) = true := by
    intro b hb
    obtain ⟨c, -, rfl⟩ := List.mem_map.mp hb
    rfl
  cases a with
  | beside => exact List.takeWhile_eq_self_iff.mpr h
  | folded => exact List.filter_eq_self.mpr h
  | listed => exact List.filter_eq_self.mpr h

theorem flatMap_kept_eq_iff {β : Type} (f : ShownBlock a → List β) (blocks : List (ShownBlock a)) :
    (a.kept blocks).flatMap f = blocks.flatMap f ↔ ∀ b ∈ a.lost blocks, f b = [] := by
  have hlength : (blocks.flatMap f).length =
      ((a.kept blocks).flatMap f).length + ((a.lost blocks).flatMap f).length := by
    rw [← List.length_append, ← List.flatMap_append]
    exact ((kept_append_lost_perm a blocks).symm.flatMap_right f).length_eq
  have hsublist : ((a.kept blocks).flatMap f).Sublist (blocks.flatMap f) :=
    (kept_sublist a blocks).flatMap f
  rw [← List.flatMap_eq_nil_iff, ← List.length_eq_zero_iff]
  constructor
  · intro h
    rw [h] at hlength
    omega
  · intro h
    exact hsublist.eq_of_length (by omega)

end Arrangement

def groupsUnder (d : Document) (parent : Name) (id : String) : List (MemberGroup Doc) :=
  Trail.items (match d.byId? id with
    | some h => sectionGroups parent h
    | none => [])

/-- The groups of methods that are not those of blocks. -/
def furtherGroups (d : Document) (parent : Name) : List (MemberGroup Doc) :=
  Trail.items (headedGroups parent .method (fun n => some n.visible)
      (d.places.filter fun p => isDerefHeading p.node)) ++
    Trail.items (headedGroups parent .requiredMethod (fun _ => some "Required Methods")
      (withId "required-methods" d)) ++
    Trail.items (headedGroups parent .method (fun _ => some "Provided Methods")
      (withId "provided-methods" d))

theorem items_methodGroups (d : Document) (parent : Name) :
    (methodGroups d parent).items =
      blockSections.flatMap (groupsUnder d parent) ++ furtherGroups d parent := by
  simp only [methodGroups, Trail.items_append, Trail.items_flatMap, furtherGroups,
    List.append_assoc]
  rfl

/-- Two pages with the same groups of methods, apart from the section with an id. -/
def AgreeBeyond (id : String) (parent : Name) (d e : Document) : Prop :=
  (∀ id' ∈ blockSections, id' ≠ id → groupsUnder d parent id' = groupsUnder e parent id') ∧
    furtherGroups d parent = furtherGroups e parent

def HasSection (d : Document) (id : String) (a : Arrangement) (blocks : List (ShownBlock a)) :
    Prop :=
  ∃ h, d.byId? id = some h ∧ a.IsSection h blocks

section Pages

variable {a : Arrangement} {blocks : List (ShownBlock a)} {d e : Document} {id : String}
  (parent : Name)

theorem groupsUnder_eq_kept (h : HasSection d id a blocks) :
    groupsUnder d parent id = (a.kept blocks).flatMap (ShownBlock.groups parent) := by
  obtain ⟨p, hp, hs⟩ := h
  rw [groupsUnder, hp]
  exact items_sectionGroups_kept parent hs

theorem groupsUnder_undocumented (h : HasSection d id a (blocks.map ShownBlock.undocumented)) :
    groupsUnder d parent id = blocks.flatMap (ShownBlock.groups parent) := by
  rw [groupsUnder_eq_kept parent h, Arrangement.kept_undocumented, List.flatMap_map]
  rfl

theorem methodGroups_eq_iff_of_agree (hid : id ∈ blockSections) (h : AgreeBeyond id parent d e) :
    (methodGroups d parent).items = (methodGroups e parent).items ↔
      groupsUnder d parent id = groupsUnder e parent id := by
  obtain ⟨hother, hfurther⟩ := h
  rw [items_methodGroups, items_methodGroups, hfurther, List.append_left_inj]
  simp only [blockSections, List.mem_cons, List.not_mem_nil, or_false] at hid
  simp only [blockSections, List.flatMap_cons, List.flatMap_nil, List.append_nil]
  rcases hid with rfl | rfl
  · rw [hother "implementations" (by decide) (by decide), List.append_left_inj]
  · rw [hother "methods" (by decide) (by decide), List.append_right_inj]

end Pages

/-- A page adds documentation to the blocks of a section of a plain page. -/
structure AddsDocumentation (a : Arrangement) (blocks : List (ShownBlock a)) (id : String)
    (parent : Name) (d plain : Document) : Prop where
  mem_blockSections : id ∈ blockSections
  hasSection : HasSection d id a blocks
  hasSection_undocumented : HasSection plain id a (blocks.map ShownBlock.undocumented)
  agree : AgreeBeyond id parent d plain

theorem items_methodGroups_eq_iff {a : Arrangement} {blocks : List (ShownBlock a)} {id : String}
    {parent : Name} {d plain : Document} (h : AddsDocumentation a blocks id parent d plain) :
    (methodGroups d parent).items = (methodGroups plain parent).items ↔
      ∀ b ∈ a.lost blocks, b.groups parent = [] := by
  rw [methodGroups_eq_iff_of_agree parent h.mem_blockSections h.agree,
    groupsUnder_eq_kept parent h.hasSection,
    groupsUnder_undocumented parent h.hasSection_undocumented]
  exact Arrangement.flatMap_kept_eq_iff (ShownBlock.groups parent) blocks

/-- On pages that pass `Page.check`, the methods of the blocks that are lost are missing, and only
they. -/
theorem methodGroups_documented (a : Arrangement) (blocks : List (ShownBlock a)) (parent : Name)
    (id : String) (d plain : Document) (h : AddsDocumentation a blocks id parent d plain) :
    groupsUnder plain parent id = blocks.flatMap (ShownBlock.groups parent) ∧
      groupsUnder d parent id = (a.kept blocks).flatMap (ShownBlock.groups parent) ∧
      ((methodGroups d parent).items = (methodGroups plain parent).items ↔
        ∀ b ∈ a.lost blocks, b.groups parent = []) :=
  ⟨groupsUnder_undocumented parent h.hasSection_undocumented,
    groupsUnder_eq_kept parent h.hasSection, items_methodGroups_eq_iff h⟩

def about : Node := .element "div" [⟨"class", "docblock"⟩] [.text .plain "How to make one."]

def itemsWith (id declaration : String) : Node :=
  .element "div" [⟨"class", "impl-items"⟩] [.element "section" [⟨"class", "method"⟩, ⟨"id", id⟩]
    [.element "h4" [⟨"class", "code-header"⟩] [.text .plain declaration]]]

def newItems : Node := itemsWith "method.new" "fn new() -> Vector"

def lenItems : Node := itemsWith "method.len" "fn len(&self) -> usize"

section Vector

variable (documentation : Option Node) (items : Node) (hitems : IsItems items)
  (hdocumentation : ∀ n ∈ documentation, IsDocumentation n)

def vectorDetails : ShownBlock .listed where
  heading := .element "summary" [] [.element "section" [⟨"class", "impl"⟩]
    [.element "h3" [] [.text .plain "impl Vector"]]]
  title := .element "h3" [] [.text .plain "impl Vector"]
  documentation := documentation
  items := items
  isTitle := rfl
  isItems := hitems
  isDocumentation := hdocumentation

def vectorHeaded : ShownBlock .beside where
  heading := .element "h3" [⟨"class", "impl"⟩] [.text .plain "impl Vector"]
  title := .element "h3" [⟨"class", "impl"⟩] [.text .plain "impl Vector"]
  documentation := documentation
  items := items
  isTitle := ⟨by decide, rfl⟩
  isItems := hitems
  isDocumentation := hdocumentation

end Vector

def detailsBlocks : List (ShownBlock .listed) :=
  [vectorDetails (some about) newItems (by decide) (by decide),
    vectorDetails none lenItems (by decide) (by decide)]

def headedBlocks : List (ShownBlock .beside) :=
  [vectorHeaded none newItems (by decide) (by decide),
    vectorHeaded (some about) lenItems (by decide) (by decide),
    vectorHeaded none lenItems (by decide) (by decide)]

def detailsPage (blocks : List (ShownBlock .listed)) : Document :=
  ⟨[.element "h2" [⟨"id", "implementations"⟩] [], .element "div" [⟨"id", "implementations-list"⟩]
    (blocks.map fun b => .element "details" [] b.elements)]⟩

def headedPage (blocks : List (ShownBlock .beside)) : Document :=
  ⟨.element "h2" [⟨"id", "methods"⟩] [] :: blocks.flatMap ShownBlock.elements⟩

theorem addsDocumentation_detailsPage :
    AddsDocumentation .listed detailsBlocks "implementations" ⟨"lib::Vector"⟩
      (detailsPage detailsBlocks) (detailsPage (detailsBlocks.map ShownBlock.undocumented)) where
  mem_blockSections := by decide
  hasSection := by
    refine ⟨_, rfl, _, rfl, rfl, ?_⟩
    exact .cons ⟨rfl, [], rfl⟩ (.cons ⟨rfl, [], rfl⟩ .nil)
  hasSection_undocumented := by
    refine ⟨_, rfl, _, rfl, rfl, ?_⟩
    exact .cons ⟨rfl, [], rfl⟩ (.cons ⟨rfl, [], rfl⟩ .nil)
  agree := by
    refine ⟨fun id hid hne => ?_, rfl⟩
    obtain rfl : id = "methods" := by simpa [blockSections, hne] using hid
    rfl

theorem addsDocumentation_headedPage :
    AddsDocumentation .beside headedBlocks "methods" ⟨"lib::Vector"⟩
      (headedPage headedBlocks) (headedPage (headedBlocks.map ShownBlock.undocumented)) where
  mem_blockSections := by decide
  hasSection := ⟨_, rfl, _, [], (List.append_nil _).symm, rfl, by decide, by simp⟩
  hasSection_undocumented := ⟨_, rfl, _, [], (List.append_nil _).symm, rfl, by decide, by simp⟩
  agree := by
    refine ⟨fun id hid hne => ?_, rfl⟩
    obtain rfl : id = "implementations" := by simpa [blockSections, hne] using hid
    rfl

/-- In a list the documented block is lost, and beside it also the block that comes after it. -/
theorem methodGroups_documented_vector :
    let group (name declaration : String) : MemberGroup Doc := ⟨some "impl Vector",
      [.leaf (Name.child ⟨"lib::Vector"⟩ name) .method (some declaration) none]⟩
    AddsDocumentation .listed detailsBlocks "implementations" ⟨"lib::Vector"⟩
        (detailsPage detailsBlocks) (detailsPage (detailsBlocks.map ShownBlock.undocumented)) ∧
      groupsUnder (detailsPage detailsBlocks) ⟨"lib::Vector"⟩ "implementations" =
        [group "len" "fn len(&self) -> usize"] ∧
      AddsDocumentation .beside headedBlocks "methods" ⟨"lib::Vector"⟩
        (headedPage headedBlocks) (headedPage (headedBlocks.map ShownBlock.undocumented)) ∧
      groupsUnder (headedPage headedBlocks) ⟨"lib::Vector"⟩ "methods" =
        [group "new" "fn new() -> Vector"] := by
  intro group
  obtain ⟨-, hdetails, -⟩ := methodGroups_documented .listed detailsBlocks ⟨"lib::Vector"⟩ _ _ _
    addsDocumentation_detailsPage
  obtain ⟨-, hheaded, -⟩ := methodGroups_documented .beside headedBlocks ⟨"lib::Vector"⟩ _ _ _
    addsDocumentation_headedPage
  exact ⟨addsDocumentation_detailsPage, hdetails.trans rfl, addsDocumentation_headedPage,
    hheaded.trans rfl⟩

/-- A block loses its methods when it is documented. -/
theorem not_methodGroups_documented_details :
    ¬∀ (a : Arrangement) (blocks : List (ShownBlock a)) (parent : Name) (id : String)
      (d plain : Document), AddsDocumentation a blocks id parent d plain →
        (methodGroups d parent).items = (methodGroups plain parent).items := by
  intro hall
  have h := addsDocumentation_detailsPage
  have hsame := hall _ _ _ _ _ _ h
  rw [items_methodGroups_eq_iff h] at hsame
  have hnone := hsame _ (.head _)
  cases hnone

end CrateDocs.Page
