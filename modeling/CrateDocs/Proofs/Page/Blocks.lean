import CrateDocs.Page.Members
import CrateDocs.Proofs.Item.Anchor
import CrateDocs.Proofs.Markup.Shape
import CrateDocs.Proofs.Page.Listing

/-!
Blocks of methods. Pages of three generations show the blocks of implementations of an item in
different elements. From the elements of each generation the same groups are read: one for each
block that has a method, with the methods in order.
-/

namespace CrateDocs.Page

open Markup

/-- The classes that tell what an element is for, or keep it out of the text. -/
def telling : List String := memberClasses ++ "docblock" :: skippedClasses

/-- Elements with a name and some classes, and without other classes that tell what they are for. -/
structure Tagged (name : String) (classes : List String) (content : List Node → Prop) (n : Node) :
    Prop where
  name? : n.name? = some name
  hasClass : ∀ c ∈ classes, n.hasClass c = true
  hasNoOther : ∀ c ∈ telling, n.hasClass c = true → c ∈ classes
  content : content n.children

structure Method where
  name : String
  declaration : String
  description : Option (List Node)
  name_ne_empty : name ≠ ""
  not_endsInCounter : ¬Anchor.EndsInCounter name.toList
  trimmed : IsTrimmed declaration
  visible : ∀ content ∈ description, Document.visible ⟨content⟩ ≠ ""

structure ImplBlock where
  title : String
  methods : List Method
  trimmed : IsTrimmed title

namespace Method

/-- The name that is read from an anchor: a counter before a final line feed is no part of it. -/
def listed (m : Method) : String := String.ofList (Anchor.stripCounter m.name.toList)

def prose (content : List Node) : Prose :=
  ⟨Document.visible ⟨content⟩, (Node.element "div" [] content).innerMarkup⟩

/-- The document of a member under the name that is read from its anchor. -/
def docAs (kind : Kind) (parent : Name) (m : Method) : Doc :=
  .leaf (parent.child m.listed) kind (some m.declaration) (m.description.map prose)

/-- The document of a member under its own name. -/
def shownAs (kind : Kind) (parent : Name) (m : Method) : Doc :=
  .leaf (parent.child m.name) kind (some m.declaration) (m.description.map prose)

def steps (m : Method) : List Step :=
  .start (some m.listed) (some m.declaration) ::
    (m.description.map fun c => Step.describe (some (prose c))).toList

theorem visible_of_none :
    ∀ content ∈ (none : Option (List Node)), Document.visible ⟨content⟩ ≠ "" :=
  nofun

/-- A member with a name that ends in a counter and a line feed. -/
def counted (declaration : String) (trimmed : IsTrimmed declaration) : Method where
  name := "a-1\n"
  declaration := declaration
  description := none
  name_ne_empty := by decide
  not_endsInCounter := Anchor.not_endsInCounter_of_getLast? rfl (by decide)
  trimmed := trimmed
  visible := visible_of_none

theorem listed_ne_empty (m : Method) : m.listed ≠ "" := by
  have hn : m.name.toList ≠ [] := fun h => m.name_ne_empty (String.toList_eq_nil_iff.mp h)
  have hs := Anchor.stripCounter_ne_nil hn m.not_endsInCounter
  intro h
  rw [listed, ← String.toList_inj, String.toList_ofList] at h
  exact hs h

theorem docAs_eq_shownAs {m : Method} (h : ¬Anchor.IsCounted m.name.toList) (kind : Kind)
    (parent : Name) : m.docAs kind parent = m.shownAs kind parent := by
  have hname : m.listed = m.name := by
    rw [listed, Anchor.stripCounter_eq_self h, String.ofList_toList]
  rw [docAs, shownAs, hname]

theorem map_docAs_eq {ms : List Method} (h : ∀ m ∈ ms, ¬Anchor.IsCounted m.name.toList)
    (kind : Kind) (parent : Name) : ms.map (docAs kind parent) = ms.map (shownAs kind parent) :=
  List.map_congr_left fun m hm => docAs_eq_shownAs (h m hm) kind parent

theorem described_flatMap_steps (ms : List Method) :
    Listing.described (ms.flatMap steps) = none := by
  cases ms <;> rfl

theorem members_flatMap_steps (kind : Kind) (parent : Name) (ms : List Method) :
    Listing.members parent kind (ms.flatMap steps) = ms.map (docAs kind parent) := by
  induction ms with
  | nil => exact Listing.members_nil
  | cons m r ih =>
    have hn := m.listed_ne_empty
    rw [List.flatMap_cons, List.map_cons, ← ih, steps, docAs]
    cases m.description with
    | none =>
      simp [Listing.members_cons, Listing.member?, Listing.opened, hn, described_flatMap_steps]
    | some c =>
      simp [Listing.members_cons, Listing.member?, Listing.opened, hn, Listing.described]

end Method

namespace ImplBlock

def groupOf? (doc : Method → Doc) (b : ImplBlock) : Option (MemberGroup Doc) :=
  if b.methods.isEmpty then none else some ⟨some b.title, b.methods.map doc⟩

def group? (parent : Name) (b : ImplBlock) : Option (MemberGroup Doc) :=
  b.groupOf? (Method.shownAs .method parent)

def readGroup? (parent : Name) (b : ImplBlock) : Option (MemberGroup Doc) :=
  b.groupOf? (Method.docAs .method parent)

theorem filterMap_readGroup?_eq {blocks : List ImplBlock}
    (h : ∀ b ∈ blocks, ∀ m ∈ b.methods, ¬Anchor.IsCounted m.name.toList) (parent : Name) :
    blocks.filterMap (readGroup? parent) = blocks.filterMap (group? parent) := by
  refine List.filterMap_congr fun b hb => ?_
  rw [readGroup?, group?, groupOf?, groupOf?, Method.map_docAs_eq (h b hb)]

end ImplBlock

/-- Pages with headings on the level of the items, pages that fold items into `details`, and pages
that use sections and keep all blocks in a list. -/
inductive Generation where
  | legacy
  | details
  | modern

def docblock (content : List Node) : Shape := Tagged "div" ["docblock"] (· = content)

namespace Generation

def sectionId : Generation → String
  | legacy => "methods"
  | _ => "implementations"

def tag : Generation → String
  | legacy => "h4"
  | details => "div"
  | modern => "section"

def declaration (g : Generation) (s : String) : Shape :=
  match g with
  | legacy => Tagged "code" [] (IsText s)
  | _ => Tagged "h4" ["code-header"] (IsText s)

def heading (g : Generation) (m : Method) : Shape := fun n =>
  Tagged g.tag ["method"] (Shapes [g.declaration m.declaration]) n ∧
    n.id? = some (Anchor.text .method m.name)

def folded (g : Generation) (m : Method) (content : List Node) : Shape :=
  Tagged "details" [] (Shapes [Tagged "summary" [] (Shapes [g.heading m]), docblock content])

def item (g : Generation) (m : Method) : List Shape :=
  match m.description with
  | none => [g.heading m]
  | some content =>
    match g with
    | legacy => [g.heading m, docblock content]
    | _ => [g.folded m content]

def items (g : Generation) (ms : List Method) : Shape :=
  Tagged "div" ["impl-items"] (Shapes (ms.flatMap g.item))

def block (g : Generation) (b : ImplBlock) : List Shape :=
  match g with
  | legacy => [Tagged "h3" ["impl"] (Shapes [Tagged "code" [] (IsText b.title)]),
      g.items b.methods]
  | _ => [Tagged "details" [] (Shapes [Tagged "summary" [] (Shapes [Tagged g.tag ["impl"]
      (Shapes [Tagged "h3" [] (IsText b.title)])]), g.items b.methods])]

/-- What comes after the heading of the blocks: the blocks and then something that is no heading of
another one, or the list of the blocks. -/
def Follows (g : Generation) (blocks : List ImplBlock) (heading : Place) : Prop :=
  match g with
  | modern => ∃ n ∈ (after heading).head?, n.id? = some "implementations-list" ∧
      Tagged "div" [] (Shapes (blocks.flatMap g.block)) n
  | _ => ∃ nodes rest, heading.after = nodes ++ rest ∧ Shapes (blocks.flatMap g.block) nodes ∧
      ∀ n ∈ (rest.filter Node.isElement).head?, n.isNamed ["h3", "details"] = false

def soughtIds (g : Generation) : List String :=
  blockSections ++ ["required-methods", "provided-methods"] ++
    match g with
    | modern => []
    | _ => ["implementations-list"]

def IsSought (g : Generation) (n : Node) : Prop :=
  isDerefHeading n = true ∨ ∃ id ∈ g.soughtIds, n.id? = some id

/-- A page of this generation that has some blocks and no other section that may list methods. -/
def IsPage (g : Generation) (blocks : List ImplBlock) (d : Document) : Prop :=
  ∃ h ∈ d.places, h.node.id? = some g.sectionId ∧ g.Follows blocks h ∧
    ∀ q ∈ d.places, q ≠ h → ¬g.IsSought q.node

end Generation

namespace Tagged

variable {name : String} {classes : List String} {content : List Node → Prop} {n : Node}

theorem isNamed (h : Tagged name classes content n) (names : List String) :
    n.isNamed names = names.contains name :=
  Node.isNamed_of_name? h.name?

theorem hasClass_eq_false (h : Tagged name classes content n) {c : String} (hc : c ∈ telling)
    (hn : c ∉ classes) : n.hasClass c = false :=
  Bool.eq_false_iff.mpr fun ht => hn (h.hasNoOther c hc ht)

theorem isSkipped (h : Tagged name classes content n) (hc : ∀ c ∈ skippedClasses, c ∉ classes) :
    n.isSkipped = false :=
  Node.isSkipped_eq_false fun c hs =>
    h.hasClass_eq_false (List.mem_append_right _ (List.mem_cons_of_mem _ hs)) (hc c hs)

theorem isDocblock (h : Tagged name classes content n) (hc : "docblock" ∉ classes) :
    n.isDocblock = false :=
  h.hasClass_eq_false (by decide) hc

theorem isMemberClass (h : Tagged name classes content n) (hc : ∀ c ∈ memberClasses, c ∉ classes) :
    isMemberClass n = false := by
  rw [Page.isMemberClass, List.any_eq_false]
  intro c hm
  rw [h.hasClass_eq_false (List.mem_append_left _ hm) (hc c hm)]
  exact Bool.false_ne_true

theorem visible {s : String} (h : Tagged name classes (IsText s) n) (hs : IsTrimmed s)
    (hn : name ≠ "br") (hc : ∀ c ∈ "docblock" :: skippedClasses, c ∉ classes) : n.visible = s := by
  obtain ⟨hd, hk⟩ := List.forall_mem_cons.mp hc
  refine Node.visible_of_text (h.isSkipped hk) (h.isDocblock hd) ?_ h.content hs
  rw [Visible.isBreak, h.isNamed]
  simpa using hn

theorem childElements_of_text {s : String} (h : Tagged name classes (IsText s) n) :
    n.childElements = [] := by
  have hc : n.children = [.text .plain s] := h.content
  rw [Node.childElements, hc]
  rfl

end Tagged

theorem anchorName?_of_id {k : Kind} {name : String} {n : Node}
    (h : n.id? = some (Anchor.text k name)) :
    n.anchorName? = some (String.ofList (Anchor.stripCounter name.toList)) := by
  have hne : (Anchor.text k name).isEmpty = false := by
    simp [Anchor.text, k.token_ne_empty]
  rw [Node.anchorName?, Node.anchorPart?, h]
  simp only [hne, Bool.false_eq_true, if_false, Anchor.name?_text, Option.map_some]

theorem definition_of_code {n c : Node} (h : n.search (fun n => n.isNamed ["code"]) = some c) :
    definition n = c.visible := by
  simp only [definition, definitionLayouts, Layout.first_cons, h]

theorem definition_of_header {n c : Node} (hc : n.search (fun n => n.isNamed ["code"]) = none)
    (hh : n.search (fun n => n.hasClass "code-header") = some c) : definition n = c.visible := by
  simp only [definition, definitionLayouts, Layout.first_cons, hc, hh]

section Docblock

variable {content : List Node} {n : Node}

theorem ofNode?_div (hn : n.name? = some "div") (hs : n.isSkipped = false)
    (hc : n.children = content) (hv : Document.visible ⟨content⟩ ≠ "") :
    Prose.ofNode? n = some (Method.prose content) := by
  have hvis : n.visible = Document.visible ⟨content⟩ := by
    rw [Node.visible_of_element (Node.isElement_of_name? hn) hs, hc]
    rw [Visible.isBreak, Node.isNamed_of_name? hn]
    rfl
  cases n with
  | text => cases hn
  | element name as cs =>
    obtain rfl : name = "div" := Option.some.inj hn
    obtain rfl : cs = content := hc
    rw [Prose.ofNode?, hvis]
    simp [hv, Method.prose, Node.innerMarkup]

theorem ofNode?_docblock (h : docblock content n) (hv : Document.visible ⟨content⟩ ≠ "") :
    Prose.ofNode? n = some (Method.prose content) :=
  ofNode?_div h.name? (h.isSkipped (by decide)) h.content hv

theorem first_memberLayouts_docblock (h : docblock content n) :
    Layout.first memberLayouts n = none := by
  have hm : isMemberClass n = false := h.isMemberClass (by decide)
  simp [memberLayouts, Layout.first_cons, isCodeSection, hm]

theorem items_readMember_docblock (h : docblock content n)
    (hv : Document.visible ⟨content⟩ ≠ "") :
    (readMember n).items = [.describe (some (Method.prose content))] := by
  have hd : n.isDocblock = true := h.hasClass _ (by simp)
  simp only [readMember, first_memberLayouts_docblock h, h.isNamed, hd]
  simp [describeBy, ofNode?_docblock h hv]

end Docblock

section Walk

variable {n i t : Node} {r : List Node} {layouts : List (Layout Node BlockHeading)}
  {lenient : Bool}

theorem itemsOf?_eq_some (h : i.isNamed ["div"] = true) (hc : i.hasClass "impl-items" = true) :
    itemsOf? (some i) = some i := by
  simp [itemsOf?, h, hc]

theorem first_blockLayouts_plain (h : isImplHeading n = true) :
    ∃ layout, Layout.first blockLayouts n = some (layout, .plain n) :=
  ⟨"impl heading", by simp [blockLayouts, Layout.first_cons, h]⟩

theorem find_summarizedLayout {s : Node} {next : List Node} (hn : n.isNamed ["details"] = true)
    (hc : n.childElements = s :: next) (ht : s.search (fun h => h.isNamed ["h3"]) = some t) :
    summarizedLayout.find n = some (.summarized t next.head?) := by
  simp [summarizedLayout, summary?, hn, hc, ht]

theorem first_summarized {b : BlockHeading} (hl : layouts = blockLayouts ∨
      layouts = [summarizedLayout]) (hn : n.isNamed ["details"] = true)
    (h : summarizedLayout.find n = some b) :
    ∃ layout, Layout.first layouts n = some (layout, b) := by
  have himpl : isImplHeading n = false := by
    have hname := Node.name?_of_isNamed hn
    rw [isImplHeading, Node.isNamed_of_name? hname]
    rfl
  refine ⟨"impl details", ?_⟩
  rcases hl with rfl | rfl
  · simp only [blockLayouts, Layout.first_cons, himpl, Bool.false_eq_true, if_false, h]
    rfl
  · rw [Layout.first_cons, h]
    rfl

theorem items_blockGroups_plain (parent : Name) (h : isImplHeading n = true)
    (hi : itemsOf? (some i) = some i) :
    (blockGroups parent .method blockLayouts lenient false (n :: i :: r)).items =
      (memberGroup parent .method (some (blockTitle n)) i).items ++
        (blockGroups parent .method blockLayouts lenient false r).items := by
  obtain ⟨layout, hf⟩ := first_blockLayouts_plain h
  simp only [blockGroups, hf, List.head?_cons, hi, Trail.items_append, Trail.items_note, if_true,
    Bool.false_eq_true, if_false, List.nil_append]

theorem items_blockGroups_plain_other (parent : Name) (h : isImplHeading n = true)
    (hi : itemsOf? r.head? = none) :
    (blockGroups parent .method blockLayouts lenient false (n :: r)).items =
      (blockGroups parent .method blockLayouts lenient false r).items := by
  obtain ⟨layout, hf⟩ := first_blockLayouts_plain h
  simp only [blockGroups, hf, hi, Trail.items_append, Trail.items_note, Bool.false_eq_true,
    if_false, List.nil_append]

theorem items_blockGroups_summarized (parent : Name) {next : Option Node}
    (hl : layouts = blockLayouts ∨ layouts = [summarizedLayout])
    (hn : n.isNamed ["details"] = true)
    (h : summarizedLayout.find n = some (.summarized t next)) :
    (blockGroups parent .method layouts lenient false (n :: r)).items =
      (match itemsOf? next with
        | some i => (memberGroup parent .method (some (blockTitle t)) i).items
        | none => []) ++
        (blockGroups parent .method layouts lenient false r).items := by
  obtain ⟨layout, hf⟩ := first_summarized hl hn h
  simp only [blockGroups, hf, Trail.items_append, Trail.items_note, Bool.false_eq_true, if_false]
  cases itemsOf? next <;> rfl

theorem items_blockGroups_end (parent : Name) {l : List Node}
    (h : ∀ n ∈ l.head?, n.isNamed ["h3", "details"] = false) :
    (blockGroups parent .method blockLayouts false false l).items = [] := by
  cases l with
  | nil => rfl
  | cons n r =>
    have hn := h n rfl
    have hf : Layout.first blockLayouts n = none := by
      cases n with
      | element name as cs =>
        simp only [Node.isNamed, List.contains_cons, Bool.or_eq_false_iff,
          beq_eq_false_iff_ne] at hn
        simp [blockLayouts, Layout.first_cons, isImplHeading, summarizedLayout, summary?,
          Node.isNamed, hn]
      | text => rfl
    simp [blockGroups, hf]

theorem sectionGroups_beside (parent : Name) {h : Place}
    (hid : ∀ n ∈ (after h).head?, n.id? ≠ some "implementations-list") :
    sectionGroups parent h = blockGroups parent .method blockLayouts false false (after h) := by
  unfold sectionGroups
  split
  · next he =>
    rw [he]
    rfl
  · next n r he =>
    rw [if_neg (hid n (by simp [he])), he]

end Walk

namespace Generation

variable {g : Generation} {m : Method} {n : Node}

theorem anchorName?_heading (h : g.heading m n) : n.anchorName? = some m.listed :=
  anchorName?_of_id h.2

theorem definition_heading (h : g.heading m n) : definition n = m.declaration := by
  obtain ⟨c, hc, hd⟩ := Shapes.one h.1.content
  cases g with
  | legacy =>
    have hn : c.isNamed ["code"] = true := hd.isNamed _
    have hcode : n.search (fun n => n.isNamed ["code"]) = some c := by
      rw [Node.search_of_childElements hc, if_pos hn]
    rw [definition_of_code hcode]
    exact hd.visible m.trimmed (by decide) (by simp)
  | details | modern =>
    have hn : c.isNamed ["code"] = false := hd.isNamed _
    have hh : c.hasClass "code-header" = true := hd.hasClass _ (by simp)
    have hcode : n.search (fun n => n.isNamed ["code"]) = none := by
      rw [Node.search_of_childElements hc, if_neg (by simp [hn]),
        Node.search_of_no_elements hd.childElements_of_text]
    have hheader : n.search (fun n => n.hasClass "code-header") = some c := by
      rw [Node.search_of_childElements hc, if_pos hh]
    rw [definition_of_header hcode hheader]
    exact hd.visible m.trimmed (by decide) (by decide)

theorem first_memberLayouts_heading (h : g.heading m n) :
    ∃ layout, Layout.first memberLayouts n = some (layout, n) := by
  have hm : isMemberClass n = true := by
    simp [isMemberClass, memberClasses, h.1.hasClass "method" (by simp)]
  obtain ⟨c, hc, hd⟩ := Shapes.one h.1.content
  cases g with
  | legacy =>
    refine ⟨"heading element", ?_⟩
    rw [memberLayouts, Layout.first_cons]
    simp [h.1.isNamed, hm, tag]
  | details | modern =>
    have hh : c.hasClass "code-header" = true := hd.hasClass _ (by simp)
    have hs : isCodeSection n = true := by
      rw [isCodeSection, h.1.isNamed, hm, Node.childElements, hc]
      simp [hh, tag]
    refine ⟨"code header section", ?_⟩
    rw [memberLayouts, Layout.first_cons]
    simp [h.1.isNamed, tag, Layout.first_cons, hs]

theorem items_startAt_heading (h : g.heading m n) :
    (startAt n).items = [.start (some m.listed) (some m.declaration)] := by
  rw [startAt, anchorName?_heading h, definition_heading h]
  rfl

theorem items_readMember_heading (h : g.heading m n) :
    (readMember n).items = [.start (some m.listed) (some m.declaration)] := by
  obtain ⟨layout, hl⟩ := first_memberLayouts_heading h
  rw [readMember, hl]
  simp [items_startAt_heading h]

theorem search_docblock_heading (hg : g ≠ legacy) (h : g.heading m n) :
    n.search (fun c => c.isNamed ["div"] && c.isDocblock) = none := by
  obtain ⟨c, hc, hd⟩ := Shapes.one h.1.content
  cases g with
  | legacy => exact absurd rfl hg
  | details | modern =>
    have hn : c.isNamed ["div"] = false := hd.isNamed _
    rw [Node.search_of_childElements hc, if_neg (by simp [hn]),
      Node.search_of_no_elements hd.childElements_of_text]

theorem items_readMember_folded (hg : g ≠ legacy) {c : List Node} (hm : m.description = some c)
    (h : g.folded m c n) : (readMember n).items = m.steps := by
  obtain ⟨s, b, hc, hs, hb⟩ := Shapes.two h.content
  obtain ⟨hd, hcs, hh⟩ := Shapes.one hs.content
  have hnone : Layout.first memberLayouts n = none := by
    simp [memberLayouts, Layout.first_cons, isCodeSection, h.isNamed]
  have hsummary : n.search (fun m => m.isNamed ["summary"]) = some s := by
    rw [Node.search_eq, Node.childElements, hc, List.findSome?_cons, hs.isNamed]
    rfl
  have hsearch : s.search (fun c => c.isNamed ["div"] && c.isDocblock) = none := by
    rw [Node.search_of_childElements hcs, search_docblock_heading hg hh,
      hh.1.isDocblock (by decide), Bool.and_false]
    rfl
  have hdocblock : n.search (fun c => c.isNamed ["div"] && c.isDocblock) = some b := by
    have hbd : b.isDocblock = true := hb.hasClass _ (by simp)
    rw [Node.search_eq, Node.childElements, hc, List.findSome?_cons, hs.isNamed, hsearch,
      List.findSome?_cons, hb.isNamed, hbd]
    rfl
  have hstart : (startWithin (s.descendants.filter fun m => m.isNamed ["div", "section"])).items =
      [.start (some m.listed) (some m.declaration)] := by
    obtain ⟨layout, hl⟩ := first_memberLayouts_heading hh
    have hk : hd.isNamed ["div", "section"] = true := by
      rw [hh.1.isNamed]
      cases g with
      | legacy => exact absurd rfl hg
      | details | modern => rfl
    rw [Node.descendants_eq, Node.childElements, hcs, List.flatMap_singleton, List.filter_cons,
      if_pos hk, startWithin, hl]
    simp [items_startAt_heading hh]
  rw [readMember, hnone, h.isNamed, h.isNamed, readDetails, hsummary, hdocblock]
  simp [hstart, describeBy, ofNode?_docblock hb (m.visible c hm), Method.steps, hm]

theorem flatMap_readMember_item {l : List Node}
    (h : List.Forall₂ (fun s n => s n) (g.item m) l) :
    (l.flatMap fun n => (readMember n).items) = m.steps := by
  unfold item at h
  split at h
  · next hm =>
    obtain ⟨n, rfl, hn⟩ := Shapes.one h
    rw [List.flatMap_singleton, items_readMember_heading hn, Method.steps, hm]
    rfl
  · next c hm =>
    split at h
    · obtain ⟨n, b, rfl, hn, hb⟩ := Shapes.two h
      simp only [List.flatMap_cons, List.flatMap_nil, items_readMember_heading hn,
        items_readMember_docblock hb (m.visible c hm), Method.steps, hm]
      rfl
    · next hg =>
      obtain ⟨n, rfl, hn⟩ := Shapes.one h
      rw [List.flatMap_singleton, items_readMember_folded hg hm hn]

theorem items_memberGroup (parent : Name) {b : ImplBlock} (h : g.items b.methods n) :
    (memberGroup parent .method (some b.title) n).items = (b.readGroup? parent).toList := by
  have hsteps : Trail.items (n.childElements.flatMap readMember) =
      b.methods.flatMap Method.steps := by
    rw [Trail.items_flatMap]
    exact Shapes.flatMap_eq (fun m _ l hl => flatMap_readMember_item hl) h.content
  rw [memberGroup, Listing.items_collect, hsteps, Method.members_flatMap_steps,
    ImplBlock.readGroup?, ImplBlock.groupOf?]
  cases b.methods <;> rfl

/-- The layouts in which the blocks of a generation are looked for, and whether other elements end
them. -/
def layouts : Generation → List (Layout Node BlockHeading)
  | modern => [summarizedLayout]
  | _ => blockLayouts

def isLenient : Generation → Bool
  | modern => true
  | _ => false

theorem blockTitle_heading {s : String} (hs : IsTrimmed s)
    (h : Tagged "h3" [] (IsText s) n ∨
      Tagged "h3" ["impl"] (Shapes [Tagged "code" [] (IsText s)]) n) :
    blockTitle n = s := by
  rcases h with h | h
  · have hf : n.firstChild? = none := by
      rw [Node.firstChild?, ← List.head?_filter]
      exact congrArg List.head? h.childElements_of_text
    rw [blockTitle, hf]
    exact h.visible hs (by decide) (by simp)
  · obtain ⟨c, hc, ht⟩ := Shapes.one h.content
    have hf : n.firstChild? = some c := by
      rw [Node.firstChild?, ← List.head?_filter, hc]
      rfl
    have hn : c.isNamed ["code"] = true := ht.isNamed _
    rw [blockTitle, hf]
    simp only [hn, if_true]
    exact ht.visible hs (by decide) (by simp)

theorem itemsOf?_items {ms : List Method} (h : g.items ms n) : itemsOf? (some n) = some n :=
  itemsOf?_eq_some (h.isNamed _) (h.hasClass _ (by simp))

theorem items_blockGroups_block (parent : Name) {b : ImplBlock} {l : List Node}
    (h : List.Forall₂ (fun s n => s n) (g.block b) l) (r : List Node) :
    (blockGroups parent .method g.layouts g.isLenient false (l ++ r)).items =
      (b.readGroup? parent).toList ++
        (blockGroups parent .method g.layouts g.isLenient false r).items := by
  -- The two newer generations differ in names only, where both ask for a heading in a summary.
  cases g with
  | legacy =>
    obtain ⟨n, i, rfl, hn, hi⟩ := Shapes.two h
    have himpl : isImplHeading n = true := by
      rw [isImplHeading, hn.isNamed, hn.hasClass "impl" (by simp)]
      rfl
    rw [← items_memberGroup parent hi, ← blockTitle_heading b.trimmed (.inr hn)]
    exact items_blockGroups_plain parent himpl (itemsOf?_items hi)
  | details | modern =>
    obtain ⟨n, rfl, hn⟩ := Shapes.one h
    obtain ⟨s, i, hc, hs, hi⟩ := Shapes.two hn.content
    obtain ⟨d, hcs, hd⟩ := Shapes.one hs.content
    obtain ⟨t, hcd, ht⟩ := Shapes.one hd.content
    have hsearch : s.search (fun h => h.isNamed ["h3"]) = some t := by
      rw [Node.search_of_childElements hcs, hd.isNamed, Node.search_of_childElements hcd,
        ht.isNamed]
      rfl
    have hdetails : n.isNamed ["details"] = true := hn.isNamed _
    have hfind := find_summarizedLayout hdetails hc hsearch
    rw [← items_memberGroup parent hi, ← blockTitle_heading b.trimmed (.inl ht)]
    refine (items_blockGroups_summarized parent (by simp [layouts]) hdetails hfind).trans ?_
    rw [List.head?_cons, itemsOf?_items hi]
    rfl

theorem items_blockGroups (parent : Name) {blocks : List ImplBlock} {l : List Node}
    (h : List.Forall₂ (fun s n => s n) (blocks.flatMap g.block) l) (r : List Node) :
    (blockGroups parent .method g.layouts g.isLenient false (l ++ r)).items =
      blocks.filterMap (ImplBlock.readGroup? parent) ++
        (blockGroups parent .method g.layouts g.isLenient false r).items := by
  induction blocks generalizing l with
  | nil =>
    cases h
    rfl
  | cons b rest ih =>
    obtain ⟨front, tail, rfl, hfront, htail⟩ := Shapes.exists_append h
    rw [List.append_assoc, items_blockGroups_block parent hfront, ih htail, List.filterMap_cons]
    cases b.readGroup? parent <;> rfl

theorem items_sectionGroups (parent : Name) {blocks : List ImplBlock} {h : Place}
    (hf : g.Follows blocks h)
    (hl : "implementations-list" ∈ g.soughtIds →
      ∀ n ∈ after h, n.id? ≠ some "implementations-list") :
    (sectionGroups parent h).items = blocks.filterMap (ImplBlock.readGroup? parent) := by
  cases g with
  | modern =>
    obtain ⟨n, hn, hid, hs⟩ := hf
    obtain ⟨r, hr⟩ := List.head?_eq_some_iff.mp hn
    have hi := items_blockGroups (g := modern) parent hs.content []
    rw [List.append_nil] at hi
    simp only [sectionGroups, hr, hid, if_true]
    exact hi.trans (List.append_nil _)
  | legacy | details =>
    obtain ⟨nodes, rest, ha, hs, hend⟩ := hf
    have hafter : after h = nodes.filter Node.isElement ++ rest.filter Node.isElement := by
      rw [after, ha, List.filter_append]
    have hg := sectionGroups_beside parent fun n hn => hl (by decide) n (List.mem_of_head? hn)
    have hi := items_blockGroups parent hs (rest.filter Node.isElement)
    rw [hg, hafter]
    refine hi.trans ?_
    show _ ++ (blockGroups parent .method blockLayouts false false _).items = _
    rw [items_blockGroups_end parent hend, List.append_nil]

theorem byId?_eq_some {d : Document} {h : Place} {id : String} (hh : h ∈ d.places)
    (hid : h.node.id? = some id) (hu : ∀ q ∈ d.places, q.node.id? = some id → q = h) :
    d.byId? id = some h :=
  find?_eq_some_of_only hh (by simpa using hid) fun q hq hqid => hu q hq (by simpa using hqid)

theorem items_methodGroups {blocks : List ImplBlock} {d : Document} (parent : Name)
    (hd : g.IsPage blocks d) :
    (methodGroups d parent).items = blocks.filterMap (ImplBlock.readGroup? parent) := by
  obtain ⟨h, hh, hid, hf, hu⟩ := hd
  -- An element with one of the ids that are looked for is the heading of the blocks.
  have honly {q : Place} {id : String} (hs : id ∈ g.soughtIds) (hq : q ∈ d.places)
      (hqid : q.node.id? = some id) : q = h ∧ id = g.sectionId := by
    have he : q = h := by_contra fun hne => hu q hq hne (.inr ⟨id, hs, hqid⟩)
    subst he
    exact ⟨rfl, Option.some.inj (hqid.symm.trans hid)⟩
  have hnone (id : String) (hs : id ∈ g.soughtIds) (hne : id ≠ g.sectionId) :
      withId id d = [] := by
    rw [withId, List.filter_eq_nil_iff]
    intro q hq hqid
    exact hne (honly hs hq (by simpa using hqid)).2
  have hsection : (sectionGroups parent h).items = blocks.filterMap (ImplBlock.readGroup? parent) := by
    refine items_sectionGroups parent hf fun hs n hn hnid => ?_
    rw [after, ← Place.map_node_following] at hn
    obtain ⟨q, hq, rfl⟩ := List.mem_map.mp hn
    have he := (honly hs (Document.following_subset_places hh hq) hnid).2
    cases g <;> simp [sectionId] at he
  have hmissing (id : String) (hs : id ∈ g.soughtIds) (hne : id ≠ g.sectionId) :
      d.byId? id = none := by
    rw [Document.byId?, ← List.head?_filter]
    exact congrArg List.head? (hnone id hs hne)
  have hfound : d.byId? g.sectionId = some h :=
    byId?_eq_some hh hid fun q hq hqid => (honly (by cases g <;> decide) hq hqid).1
  have hderef : (d.places.filter fun p => isDerefHeading p.node) = [] := by
    rw [List.filter_eq_nil_iff]
    intro q hq hqd
    have he : q = h := by_contra fun hne => hu q hq hne (.inl hqd)
    subst he
    rw [isDerefHeading, hid] at hqd
    cases g <;> simp [sectionId, derefId] at hqd
  rw [methodGroups, hderef, hnone "required-methods" (by simp [soughtIds])
      (by cases g <;> decide), hnone "provided-methods" (by simp [soughtIds])
      (by cases g <;> decide)]
  simp only [headedGroups, List.flatMap_nil, List.append_nil, blockSections, List.flatMap_cons]
  cases g with
  | legacy =>
    have hm : d.byId? "methods" = some h := hfound
    rw [hm, hmissing "implementations" (by decide) (by decide), List.append_nil]
    exact hsection
  | details | modern =>
    have hm : d.byId? "implementations" = some h := hfound
    rw [hm, hmissing "methods" (by decide) (by decide), List.nil_append]
    exact hsection

/-- Pages of all generations that pass `Page.check` give the same groups, unless a name ends in a
hyphen and digits before a line feed at its end. -/
theorem methodGroups_isPage (g : Generation) (blocks : List ImplBlock) (d : Document)
    (parent : Name) (hd : g.IsPage blocks d)
    (hn : ∀ b ∈ blocks, ∀ m ∈ b.methods, ¬Anchor.IsCounted m.name.toList) :
    (methodGroups d parent).items = blocks.filterMap (ImplBlock.group? parent) := by
  rw [items_methodGroups parent hd, ImplBlock.filterMap_readGroup?_eq hn]

def vectorBlocks : List ImplBlock :=
  [⟨"impl Vector", [
      ⟨"new", "fn new() -> Vector", none, by decide,
        Anchor.not_endsInCounter_of_not_mem (by decide), by decide, Method.visible_of_none⟩,
      ⟨"len", "fn len(&self) -> usize", some [.text .plain "How many."],
        by decide, Anchor.not_endsInCounter_of_not_mem (by decide), by decide,
        fun c hc => by cases hc; decide⟩],
    by decide⟩,
   ⟨"impl Default", [], by decide⟩]

def vectorList : Node :=
  let title (s : String) : Node := .element "summary" [] [.element "section" [⟨"class", "impl"⟩]
    [.element "h3" [] [.text .plain s]]]
  let heading (id s : String) : Node := .element "section" [⟨"class", "method"⟩, ⟨"id", id⟩]
    [.element "h4" [⟨"class", "code-header"⟩] [.text .plain s]]
  .element "div" [⟨"id", "implementations-list"⟩] [.text .plain "\n",
    .element "details" [] [title "impl Vector", .element "div" [⟨"class", "impl-items"⟩] [
      heading "method.new" "fn new() -> Vector", .text .plain "\n",
      .element "details" [⟨"class", "method-toggle"⟩] [
        .element "summary" [] [heading "method.len" "fn len(&self) -> usize"],
        .element "div" [⟨"class", "docblock"⟩] [.text .plain "How many."]]]],
    .element "details" [] [title "impl Default", .element "div" [⟨"class", "impl-items"⟩] []]]

def vectorHeading : Node :=
  .element "h2" [⟨"id", "implementations"⟩] [.text .plain "Implementations"]

def vectorPage : Document := ⟨[vectorHeading, .text .plain "\n", vectorList]⟩

theorem shapes_vectorList : Shapes (vectorBlocks.flatMap modern.block) vectorList.children := by
  refine .cons ⟨rfl, by decide, by decide, ?_⟩ (.cons ⟨rfl, by decide, by decide, ?_⟩ .nil)
  · refine .cons ⟨rfl, by decide, by decide, ?_⟩ (.cons ⟨rfl, by decide, by decide, ?_⟩ .nil)
    · exact .cons ⟨rfl, by decide, by decide, .cons ⟨rfl, by decide, by decide, rfl⟩ .nil⟩ .nil
    · refine .cons ⟨⟨rfl, by decide, by decide, ?_⟩, rfl⟩
        (.cons ⟨rfl, by decide, by decide, ?_⟩ .nil)
      · exact .cons ⟨rfl, by decide, by decide, rfl⟩ .nil
      · refine .cons ⟨rfl, by decide, by decide, ?_⟩ (.cons ⟨rfl, by decide, by decide, rfl⟩ .nil)
        refine .cons ⟨⟨rfl, by decide, by decide, ?_⟩, rfl⟩ .nil
        exact .cons ⟨rfl, by decide, by decide, rfl⟩ .nil
  · refine .cons ⟨rfl, by decide, by decide, ?_⟩ (.cons ⟨rfl, by decide, by decide, .nil⟩ .nil)
    exact .cons ⟨rfl, by decide, by decide, .cons ⟨rfl, by decide, by decide, rfl⟩ .nil⟩ .nil

theorem isPage_of_places {blocks : List ImplBlock} {d : Document} {h : Place} {t : List Place}
    (hp : d.places = h :: t) (hid : h.node.id? = some g.sectionId) (hf : g.Follows blocks h)
    (ht : ∀ n ∈ t.map Place.node,
      isDerefHeading n = false ∧ ∀ id ∈ g.soughtIds, n.id? ≠ some id) : g.IsPage blocks d := by
  refine ⟨h, hp ▸ List.mem_cons_self, hid, hf, ?_⟩
  intro q hq hne
  rw [hp] at hq
  obtain ⟨hderef, hother⟩ :=
    ht q.node (List.mem_map_of_mem ((List.mem_cons.mp hq).resolve_left hne))
  rintro (hs | ⟨id, hm, hs⟩)
  · exact Bool.false_ne_true (hderef.symm.trans hs)
  · exact hother id hm hs

theorem isPage_vectorPage : modern.IsPage vectorBlocks vectorPage := by
  let h : Place := .under (.top vectorPage.children) [] vectorHeading (vectorPage.children.drop 1)
  have hp : vectorPage.places = h :: vectorPage.places.tail := rfl
  exact isPage_of_places hp rfl ⟨vectorList, rfl, rfl, rfl, by decide, by decide, shapes_vectorList⟩
    (by decide)

theorem methodGroups_isPage_vectorPage :
    modern.IsPage vectorBlocks vectorPage ∧
      (∀ b ∈ vectorBlocks, ∀ m ∈ b.methods, ¬Anchor.IsCounted m.name.toList) ∧
      (methodGroups vectorPage ⟨"lib::Vector"⟩).items = [⟨some "impl Vector", [
        .leaf ⟨"lib::Vector::new"⟩ .method (some "fn new() -> Vector") none,
        .leaf ⟨"lib::Vector::len"⟩ .method (some "fn len(&self) -> usize")
          (some ⟨"How many.", "How many."⟩)]⟩] := by
  have hhyphen : ∀ b ∈ vectorBlocks, ∀ m ∈ b.methods, '-' ∉ m.name.toList := by
    simp [vectorBlocks]
  have hn : ∀ b ∈ vectorBlocks, ∀ m ∈ b.methods, ¬Anchor.IsCounted m.name.toList :=
    fun b hb m hm => Anchor.not_isCounted_of_not_mem (hhyphen b hb m hm)
  exact ⟨isPage_vectorPage, hn, (methodGroups_isPage modern vectorBlocks vectorPage
    ⟨"lib::Vector"⟩ isPage_vectorPage hn).trans rfl⟩

def countedBlocks : List ImplBlock := [⟨"impl S", [.counted "fn a()" (by decide)], by decide⟩]

def countedItems : List Node :=
  [.element "h3" [⟨"class", "impl"⟩] [.element "code" [] [.text .plain "impl S"]],
    .element "div" [⟨"class", "impl-items"⟩] [
      .element "h4" [⟨"id", "method.a-1\n"⟩, ⟨"class", "method"⟩]
        [.element "code" [] [.text .plain "fn a()"]]]]

def countedHeading : Node := .element "h2" [⟨"id", "methods"⟩] [.text .plain "Methods"]

def countedPage : Document := ⟨countedHeading :: countedItems⟩

theorem shapes_countedItems : Shapes (countedBlocks.flatMap legacy.block) countedItems := by
  refine .cons ⟨rfl, by decide, by decide, ?_⟩ (.cons ⟨rfl, by decide, by decide, ?_⟩ .nil)
  · exact .cons ⟨rfl, by decide, by decide, rfl⟩ .nil
  · refine .cons ⟨⟨rfl, by decide, by decide, ?_⟩, rfl⟩ .nil
    exact .cons ⟨rfl, by decide, by decide, rfl⟩ .nil

theorem isPage_countedPage : legacy.IsPage countedBlocks countedPage := by
  let h : Place := .under (.top countedPage.children) [] countedHeading countedItems
  have hp : countedPage.places = h :: countedPage.places.tail := rfl
  exact isPage_of_places hp rfl
    ⟨countedItems, [], (List.append_nil _).symm, shapes_countedItems, nofun⟩ (by decide)

theorem not_methodGroups_isPage_counted :
    ¬∀ (g : Generation) (blocks : List ImplBlock) (d : Document) (parent : Name),
      g.IsPage blocks d →
        (methodGroups d parent).items = blocks.filterMap (ImplBlock.group? parent) := by
  intro hall
  have hgroups := hall legacy countedBlocks countedPage ⟨"lib::S"⟩ isPage_countedPage
  rw [items_methodGroups _ isPage_countedPage] at hgroups
  have hnames := congrArg (fun gs => gs.flatMap fun g => g.members.map Doc.name) hgroups
  exact absurd hnames (by decide)

end Generation

end CrateDocs.Page
