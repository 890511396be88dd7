import CrateDocs.Proofs.Page.Blocks
import CrateDocs.Proofs.Page.Located

/-!
Lists of fields and of variants. Both are runs of headings with blocks of documentation between
them, and variants may have a container of their own. Exactly the members that a page shows in such
a run are read, whatever comes after the element that ends it.
-/

namespace CrateDocs.Page

open Markup

/-- A declaration in the first `code` element of a heading or, if it has none, in the first element
of the class that replaced it. -/
def Declares (s : String) (n : Node) : Prop :=
  ∃ c, c.visible = s ∧ (n.search (fun c => c.isNamed ["code"]) = some c ∨
    n.search (fun c => c.isNamed ["code"]) = none ∧
      n.search (fun c => c.hasClass "code-header") = some c)

def listingClasses : List String := ["docblock", "variant", "variants"]

/-- Elements that have no part in a listing. -/
def isIndifferent (n : Node) : Bool := n.isNamed ["div"] && !listingClasses.any n.hasClass

inductive PartList where
  | fields
  | variants

namespace PartList

def kind : PartList → Kind
  | fields => .field
  | variants => .variant

def groups : PartList → Document → Name → Trail (MemberGroup Doc)
  | fields => fieldGroups
  | variants => variantGroups

def isHeading (n : Node) : PartList → Bool
  | fields => n.isNamed ["span"] && n.hasClass "structfield"
  | variants => isVariantHeading n

/-- Whether an element holds the rest of the list. -/
def opens (n : Node) : PartList → Bool
  | fields => false
  | variants => n.isNamed ["div"] && n.hasClass "variants"

def ends (n : Node) (l : PartList) : Bool :=
  n.isElement && !(l.isHeading n || n.isNamed ["div"])

structure Heading (l : PartList) (m : Method) (n : Node) : Prop where
  isHeading : l.isHeading n = true
  id? : n.id? = some (Anchor.text l.kind m.name)
  declares : Declares m.declaration n

structure Block (l : PartList) (content : List Node) (n : Node) : Prop where
  name? : n.name? = some "div"
  isDocblock : n.isDocblock = true
  isSkipped : n.isSkipped = false
  isHeading : l.isHeading n = false
  children : n.children = content

def shapes (l : PartList) (m : Method) : List Shape :=
  l.Heading m :: (m.description.map l.Block).toList

/-- Nodes that show some members, with nothing else between them than texts and elements that have
no part in the listing. -/
def Shows (l : PartList) (ms : List Method) (nodes : List Node) : Prop :=
  Shapes (ms.flatMap l.shapes) (nodes.filter fun n => !isIndifferent n)

/-- What comes after the heading of a list: the members and then, if there is any other element, one
that ends the list; or a container with the members. -/
inductive Follows (l : PartList) (ms : List Method) : List Node → Prop
  | beside {run rest : List Node} : l.Shows ms run → (∀ n ∈ run, l.opens n = false) →
    (∀ n ∈ (rest.filter Node.isElement).head?, l.ends n = true) → Follows l ms (run ++ rest)
  | inside {before rest : List Node} {c : Node} :
    (∀ n ∈ before, n.isElement = true → isIndifferent n = true) → l.opens c = true →
    l.Shows ms c.children → Follows l ms (before ++ c :: rest)

def read : PartList → Node → Trail Step × Bool
  | fields => readField
  | variants => readVariant

def elements : PartList → List Node → List Node
  | fields => id
  | variants => variantElements

variable {l : PartList} {m : Method} {ms : List Method} {n c : Node} {a r : List Node}

theorem groups_eq (l : PartList) {d : Document} {h : Place} (hh : d.byId? l.kind.groupId = some h)
    (parent : Name) :
    l.groups d parent =
      Listing.collect parent l.kind none (readRun l.read (l.elements (after h))) := by
  cases l with
  | fields =>
    have hf : d.byId? Kind.field.groupId = some h := hh
    rw [groups, fieldGroups, hf]
    rfl
  | variants =>
    have hf : d.byId? Kind.variant.groupId = some h := hh
    rw [groups, variantGroups, hf]
    rfl

theorem items_readBlock_eq (n : Node) :
    (readBlock n).1.items =
        (if n.isNamed ["div"] && n.isDocblock then [.describe (Prose.ofNode? n)] else []) ∧
      (readBlock n).2 = n.isNamed ["div"] := by
  unfold readBlock
  cases n.isNamed ["div"] <;> cases n.isDocblock <;> exact ⟨rfl, rfl⟩

theorem items_read (l : PartList) (n : Node) :
    (l.read n).1.items =
        (if l.isHeading n then (startAt n).items
          else if n.isNamed ["div"] && n.isDocblock then [.describe (Prose.ofNode? n)] else []) ∧
      (l.read n).2 = (l.isHeading n || n.isNamed ["div"]) := by
  obtain ⟨hi, hm⟩ := items_readBlock_eq n
  cases l with
  | fields =>
    rw [read, isHeading, readField]
    cases n.isNamed ["span"] && n.hasClass "structfield" with
    | true => exact ⟨rfl, rfl⟩
    | false => exact ⟨hi, hm⟩
  | variants =>
    rw [read, isHeading, readVariant, first_variantLayouts]
    cases isVariantHeading n with
    | true => exact ⟨rfl, rfl⟩
    | false => exact ⟨hi, hm⟩

theorem isIndifferent_iff :
    isIndifferent n = true ↔ n.isNamed ["div"] = true ∧ n.hasClass "docblock" = false ∧
      n.hasClass "variant" = false ∧ n.hasClass "variants" = false := by
  simp [isIndifferent, listingClasses]

theorem not_isHeading_of_isIndifferent (h : isIndifferent n = true) : l.isHeading n = false := by
  obtain ⟨hn, -, hv, -⟩ := isIndifferent_iff.mp h
  cases l with
  | fields =>
    rw [isHeading, Node.isNamed_of_name? (Node.name?_of_isNamed hn)]
    rfl
  | variants => rw [isHeading, isVariantHeading, hv, Bool.and_false]

theorem not_opens_of_isIndifferent (h : isIndifferent n = true) : l.opens n = false := by
  obtain ⟨-, -, -, hv⟩ := isIndifferent_iff.mp h
  cases l with
  | fields => rfl
  | variants => rw [opens, hv, Bool.and_false]

theorem read_of_isIndifferent (h : isIndifferent n = true) :
    (l.read n).1.items = [] ∧ (l.read n).2 = true := by
  obtain ⟨hi, hm⟩ := items_read l n
  have hh : l.isHeading n = false := not_isHeading_of_isIndifferent h
  obtain ⟨hn, hc, -⟩ := isIndifferent_iff.mp h
  have hd : n.isDocblock = false := hc
  exact ⟨by simp [hi, hh, hd], by simp [hm, hn]⟩

theorem read_of_ends (h : l.ends n = true) : (l.read n).1.items = [] ∧ (l.read n).2 = false := by
  obtain ⟨hi, hm⟩ := items_read l n
  simp only [ends, Bool.and_eq_true, Bool.not_eq_true', Bool.or_eq_false_iff] at h
  exact ⟨by simp [hi, h.2], by simp [hm, h.2]⟩

theorem declares_of_text {s : String} (hc : n.childElements = [c])
    (hd : c.isNamed ["code"] = true ∨ c.hasClass "code-header" = true) (hv : c.visible = s)
    (ht : IsText s c.children) : Declares s n := by
  refine ⟨c, hv, ?_⟩
  rw [Node.search_of_childElements hc, Node.search_of_childElements hc]
  cases hn : c.isNamed ["code"] with
  | true => exact .inl rfl
  | false =>
    have hh : c.hasClass "code-header" = true := hd.resolve_left (by simp [hn])
    have hnone : c.childElements = [] := by
      rw [Node.childElements, ht]
      rfl
    exact .inr ⟨Node.search_of_no_elements hnone, if_pos hh⟩

theorem definition_of_declares {s : String} (h : Declares s n) : definition n = s := by
  obtain ⟨c, rfl, hc | ⟨hc, hh⟩⟩ := h
  · exact definition_of_code hc
  · exact definition_of_header hc hh

theorem read_of_heading (h : l.Heading m n) :
    (l.read n).1.items = [.start (some m.listed) (some m.declaration)] ∧ (l.read n).2 = true := by
  obtain ⟨hi, hm⟩ := items_read l n
  refine ⟨?_, by rw [hm, h.isHeading, Bool.true_or]⟩
  rw [hi, if_pos h.isHeading, startAt, anchorName?_of_id h.id?,
    definition_of_declares h.declares]
  rfl

theorem read_of_block {content : List Node} (h : l.Block content n)
    (hv : Document.visible ⟨content⟩ ≠ "") :
    (l.read n).1.items = [.describe (some (Method.prose content))] ∧ (l.read n).2 = true := by
  obtain ⟨hi, hm⟩ := items_read l n
  have hn : n.isNamed ["div"] = true := by
    rw [Node.isNamed_of_name? h.name?]
    rfl
  refine ⟨?_, by rw [hm, hn, Bool.or_true]⟩
  rw [hi, h.isHeading, hn, h.isDocblock, ofNode?_div h.name? h.isSkipped h.children hv]
  rfl

theorem continues_of_mem_shapes {s : Shape} (hs : s ∈ l.shapes m) (hn : s n) :
    (l.read n).2 = true := by
  rcases List.mem_cons.mp hs with rfl | hs
  · exact (read_of_heading hn).2
  · obtain ⟨content, hc, rfl⟩ := Option.map_eq_some_iff.mp (Option.mem_toList.mp hs)
    exact (read_of_block hn (m.visible content hc)).2

theorem flatMap_read_shapes {es : List Node}
    (h : List.Forall₂ (fun s n => s n) (l.shapes m) es) :
    (es.flatMap fun n => (l.read n).1.items) = m.steps := by
  unfold shapes at h
  rw [Method.steps]
  cases hd : m.description with
  | none =>
    rw [hd] at h
    obtain ⟨n, rfl, hn⟩ := Shapes.one h
    rw [List.flatMap_singleton, (read_of_heading hn).1]
    rfl
  | some content =>
    rw [hd] at h
    obtain ⟨n, b, rfl, hn, hb⟩ := Shapes.two h
    rw [List.flatMap_cons, List.flatMap_singleton, (read_of_heading hn).1,
      (read_of_block hb (m.visible content hd)).1]
    rfl

theorem flatMap_filter_of_nil {α β : Type} {f : α → List β} {p : α → Bool} {as : List α}
    (h : ∀ a ∈ as, p a = false → f a = []) : (as.filter p).flatMap f = as.flatMap f := by
  induction as with
  | nil => rfl
  | cons a r ih =>
    obtain ⟨ha, hr⟩ := List.forall_mem_cons.mp h
    rw [List.filter_cons, List.flatMap_cons]
    split
    · rw [List.flatMap_cons, ih hr]
    · next hp => rw [ha (Bool.eq_false_iff.mpr hp), ih hr, List.nil_append]

section Run

variable {read : Node → Trail Step × Bool}

theorem items_readRun_continued (h : ∀ n ∈ a, (read n).2 = true) (r : List Node) :
    (readRun read (a ++ r)).items =
      (a.flatMap fun n => (read n).1.items) ++ (readRun read r).items := by
  induction a with
  | nil => rfl
  | cons n a ih =>
    obtain ⟨hn, ha⟩ := List.forall_mem_cons.mp h
    rw [List.cons_append, readRun, Trail.items_append, if_pos hn, ih ha, List.flatMap_cons,
      List.append_assoc]

theorem items_readRun_of_continues (h : ∀ n ∈ a, (read n).2 = true) :
    (readRun read a).items = a.flatMap fun n => (read n).1.items := by
  have hi := items_readRun_continued h []
  rwa [List.append_nil, readRun, Trail.items_nil, List.append_nil] at hi

theorem items_readRun_append (h : ∀ n ∈ r.head?, (read n).1.items = [] ∧ (read n).2 = false) :
    (readRun read (a ++ r)).items = (readRun read a).items := by
  induction a with
  | nil =>
    cases r with
    | nil => rfl
    | cons n r =>
      obtain ⟨hi, hm⟩ := h n rfl
      simp [readRun, hi, hm]
  | cons n a ih =>
    rw [List.cons_append, readRun, readRun, Trail.items_append, Trail.items_append]
    split
    · rw [ih]
    · rfl

end Run

theorem items_readRun_of_shows {nodes : List Node} (h : l.Shows ms nodes) :
    (readRun l.read (nodes.filter Node.isElement)).items = ms.flatMap Method.steps := by
  -- The shapes are those of the elements that are left when the others are taken out.
  unfold Shows Shapes at h
  rw [List.filter_comm] at h
  have hread : ∀ n ∈ nodes.filter Node.isElement, (l.read n).2 = true := by
    intro n hn
    cases hi : isIndifferent n with
    | true => exact (read_of_isIndifferent hi).2
    | false =>
      obtain ⟨s, hs, hsn⟩ := exists_of_mem_forall₂ h (List.mem_filter.mpr ⟨hn, by simp [hi]⟩)
      obtain ⟨m, -, hs⟩ := List.mem_flatMap.mp hs
      exact continues_of_mem_shapes hs hsn
  rw [items_readRun_of_continues hread, ← flatMap_filter_of_nil (p := fun n => !isIndifferent n)]
  · exact Shapes.flatMap_eq (fun m _ es he => flatMap_read_shapes he) h
  · intro n _ hn
    exact (read_of_isIndifferent (by simpa using hn)).1

theorem elements_append (h : ∀ n ∈ a, l.opens n = false) (r : List Node) :
    l.elements (a ++ r) = a ++ l.elements r := by
  cases l with
  | fields => rfl
  | variants =>
    induction a with
    | nil => rfl
    | cons n a ih =>
      obtain ⟨hn, ha⟩ := List.forall_mem_cons.mp h
      have hn' : (n.isNamed ["div"] && n.hasClass "variants") = false := hn
      have ih' : variantElements (a ++ r) = a ++ variantElements r := ih ha
      rw [elements, List.cons_append, variantElements, hn', if_neg Bool.false_ne_true, ih']
      rfl

theorem elements_cons_of_opens (h : l.opens c = true) (r : List Node) :
    l.elements (c :: r) = c.childElements := by
  cases l with
  | fields => cases h
  | variants => exact if_pos h

theorem not_opens_of_ends (h : l.ends n = true) : l.opens n = false := by
  simp only [ends, Bool.and_eq_true, Bool.not_eq_true', Bool.or_eq_false_iff] at h
  cases l with
  | fields => rfl
  | variants => rw [opens, h.2.2, Bool.false_and]

theorem head?_elements (h : ∀ n ∈ r.head?, l.ends n = true) : (l.elements r).head? = r.head? := by
  cases r with
  | nil => cases l <;> rfl
  | cons n r =>
    have hn : ∀ m ∈ [n], l.opens m = false := by simpa using not_opens_of_ends (h n rfl)
    rw [← List.singleton_append, elements_append hn]
    rfl

-- A container behind the end of a run is opened all the same, but what it holds comes after the
-- element that ends the run.
theorem items_readRun_beside (ha : ∀ n ∈ a, l.opens n = false)
    (hr : ∀ n ∈ (r.filter Node.isElement).head?, l.ends n = true) :
    (readRun l.read (l.elements ((a ++ r).filter Node.isElement))).items =
      (readRun l.read (a.filter Node.isElement)).items := by
  rw [List.filter_append, elements_append fun n hn => ha n (List.mem_of_mem_filter hn)]
  refine items_readRun_append fun n hn => ?_
  rw [head?_elements hr] at hn
  exact read_of_ends (hr n hn)

theorem items_readRun_follows (h : l.Follows ms a) :
    (readRun l.read (l.elements (a.filter Node.isElement))).items = ms.flatMap Method.steps := by
  cases h with
  | beside hs hopen hend => rw [items_readRun_beside hopen hend, items_readRun_of_shows hs]
  | @inside before rest c hbefore hopen hs =>
    have hc : c.isElement = true := by
      cases c with
      | element => rfl
      | text => cases l <;> cases hopen
    have hb : ∀ n ∈ before.filter Node.isElement, isIndifferent n = true := fun n hn =>
      hbefore n (List.mem_of_mem_filter hn) (List.mem_filter.mp hn).2
    have hnil : (before.filter Node.isElement).flatMap (fun n => (l.read n).1.items) = [] :=
      List.flatMap_eq_nil_iff.mpr fun n hn => (read_of_isIndifferent (hb n hn)).1
    rw [List.filter_append, List.filter_cons_of_pos hc,
      elements_append fun n hn => not_opens_of_isIndifferent (hb n hn),
      elements_cons_of_opens hopen,
      items_readRun_continued fun n hn => (read_of_isIndifferent (hb n hn)).2, hnil]
    exact items_readRun_of_shows hs

theorem items_groups {d : Document} {h : Place} (parent : Name)
    (hh : d.byId? l.kind.groupId = some h) (hf : l.Follows ms h.after) :
    (l.groups d parent).items =
      if ms.isEmpty then [] else [⟨none, ms.map (Method.docAs l.kind parent)⟩] := by
  rw [groups_eq l hh, Listing.items_collect, after, items_readRun_follows hf,
    Method.members_flatMap_steps]
  cases ms <;> rfl

/-- From a page that passes `Page.check` and shows some members in a list, these members are read,
unless a name ends in a hyphen and digits before a line feed at its end; and nothing is read that
stands beside the list after its end. -/
theorem groups_shown (l : PartList) (parent : Name) :
    (∀ (d : Document) (h : Place) (ms : List Method), d.byId? l.kind.groupId = some h →
      l.Follows ms h.after → (∀ m ∈ ms, ¬Anchor.IsCounted m.name.toList) →
      (l.groups d parent).items =
        if ms.isEmpty then [] else [⟨none, ms.map (Method.shownAs l.kind parent)⟩]) ∧
    ∀ (d d' : Document) (h h' : Place) (run : List Node) (t : Node) (rest rest' : List Node),
      d.byId? l.kind.groupId = some h → d'.byId? l.kind.groupId = some h' →
      h.after = run ++ t :: rest → h'.after = run ++ t :: rest' →
      (∀ n ∈ run, l.opens n = false) → l.ends t = true →
      (l.groups d parent).items = (l.groups d' parent).items := by
  constructor
  · intro d h ms hh hf hn
    rw [items_groups parent hh hf, Method.map_docAs_eq hn]
  · intro d d' h h' run t rest rest' hh hh' ha ha' hopen hend
    have hhead (r : List Node) : ∀ n ∈ ((t :: r).filter Node.isElement).head?, l.ends n = true := by
      have ht : t.isElement = true := (Bool.and_eq_true_iff.mp hend).1
      rw [List.filter_cons_of_pos ht]
      rintro n ⟨⟩
      exact hend
    rw [groups_eq l hh, groups_eq l hh', Listing.items_collect, Listing.items_collect, after, after,
      ha, ha', items_readRun_beside hopen (hhead rest), items_readRun_beside hopen (hhead rest')]

def shapeVariants : List Method :=
  let variant (name declaration : String) (hn : name ≠ "") (hc : '-' ∉ name.toList)
      (ht : IsTrimmed declaration) : Method :=
    ⟨name, declaration, none, hn, Anchor.not_endsInCounter_of_not_mem hc, ht,
      Method.visible_of_none⟩
  [variant "Empty" "Empty" (by decide) (by decide) (by decide),
    ⟨"Circle", "Circle(f64)", some [.text .plain "Round."], by decide,
      Anchor.not_endsInCounter_of_not_mem (by decide), by decide,
      fun c hc => by cases hc; decide⟩,
    variant "Square" "Square(f64)" (by decide) (by decide) (by decide)]

def shapeRun : List Node :=
  let code (s : String) : Node := .element "code" [] [.text .plain s]
  [.text .plain "\n",
    .element "div" [⟨"class", "variant"⟩, ⟨"id", "variant.Empty"⟩] [code "Empty"],
    .element "div" [⟨"class", "indent"⟩] [.text .plain "not a description"],
    .element "section" [⟨"class", "variant"⟩, ⟨"id", "variant.Circle"⟩]
      [.element "h3" [⟨"class", "code-header"⟩] [.text .plain "Circle(f64)"]],
    .text .comment "text",
    .element "div" [⟨"class", "docblock"⟩] [.text .plain "Round."],
    .element "h3" [⟨"class", "variant"⟩, ⟨"id", "variant.Square"⟩] [code "Square(f64)"]]

def shapePage (rest : List Node) : Document :=
  ⟨.element "h2" [⟨"id", "variants"⟩] [.text .plain "Variants"] ::
    (shapeRun ++ .element "h2" [⟨"id", "implementations"⟩] [] :: rest)⟩

def behindShapes : List Node :=
  [.element "div" [⟨"class", "docblock"⟩] [.text .plain "No description."],
    .element "div" [⟨"class", "variants"⟩] [.element "div" [⟨"class", "variant"⟩,
      ⟨"id", "variant.Other"⟩] []]]

theorem shows_shapeRun : variants.Shows shapeVariants shapeRun := by
  have hcode {s : String} {n : Node} (hc : n.childElements = [.element "code" [] [.text .plain s]])
      (hv : (Node.element "code" [] [.text .plain s]).visible = s) : Declares s n :=
    declares_of_text hc (.inl rfl) hv rfl
  refine .cons ⟨by decide, by decide, hcode rfl (by decide)⟩ (.cons ⟨by decide, by decide, ?_⟩
    (.cons ⟨rfl, by decide, by decide, by decide, rfl⟩
      (.cons ⟨by decide, by decide, hcode rfl (by decide)⟩ .nil)))
  exact declares_of_text rfl (.inr (by decide)) (by decide) rfl

theorem groups_shown_shapePage :
    (∃ h, (shapePage behindShapes).byId? "variants" = some h ∧
      variants.Follows shapeVariants h.after) ∧
    (variantGroups (shapePage behindShapes) ⟨"lib::Shape"⟩).items = [⟨none, [
      .leaf ⟨"lib::Shape::Empty"⟩ .variant (some "Empty") none,
      .leaf ⟨"lib::Shape::Circle"⟩ .variant (some "Circle(f64)") (some ⟨"Round.", "Round."⟩),
      .leaf ⟨"lib::Shape::Square"⟩ .variant (some "Square(f64)") none]⟩] ∧
    (variantGroups (shapePage behindShapes) ⟨"lib::Shape"⟩).items =
      (variantGroups (shapePage []) ⟨"lib::Shape"⟩).items := by
  have hfound (rest : List Node) : ∃ h, (shapePage rest).byId? "variants" = some h ∧
      h.after = shapeRun ++ .element "h2" [⟨"id", "implementations"⟩] [] :: rest := ⟨_, rfl, rfl⟩
  have hopen : ∀ n ∈ shapeRun, variants.opens n = false := by decide
  obtain ⟨h, hh, ha⟩ := hfound behindShapes
  obtain ⟨h', hh', ha'⟩ := hfound []
  have hfollows : variants.Follows shapeVariants h.after := by
    rw [ha]
    exact .beside shows_shapeRun hopen (by rintro n ⟨⟩; decide)
  have hhyphen : ∀ m ∈ shapeVariants, '-' ∉ m.name.toList := by simp [shapeVariants]
  have hn : ∀ m ∈ shapeVariants, ¬Anchor.IsCounted m.name.toList :=
    fun m hm => Anchor.not_isCounted_of_not_mem (hhyphen m hm)
  obtain ⟨hlist, hrest⟩ := groups_shown variants ⟨"lib::Shape"⟩
  exact ⟨⟨h, hh, hfollows⟩, (hlist _ h shapeVariants hh hfollows hn).trans rfl,
    hrest _ _ h h' shapeRun _ behindShapes [] hh hh' ha ha' hopen (by decide)⟩

def countedField : Method := .counted "count: u8" (by decide)

def countedRun : List Node :=
  [.element "span" [⟨"id", "structfield.a-1\n"⟩, ⟨"class", "structfield"⟩]
    [.element "code" [] [.text .plain "count: u8"]]]

def countedPage : Document :=
  ⟨.element "h2" [⟨"id", "fields"⟩] [.text .plain "Fields"] :: countedRun⟩

theorem shows_countedRun : fields.Shows [countedField] countedRun :=
  .cons ⟨by decide, by decide, declares_of_text rfl (.inl rfl) (by decide) rfl⟩ .nil

theorem not_groups_shown_counted :
    ¬∀ (l : PartList) (parent : Name) (d : Document) (h : Place) (ms : List Method),
      d.byId? l.kind.groupId = some h → l.Follows ms h.after →
        (l.groups d parent).items =
          if ms.isEmpty then [] else [⟨none, ms.map (Method.shownAs l.kind parent)⟩] := by
  intro hall
  obtain ⟨h, hh, ha⟩ : ∃ h, countedPage.byId? fields.kind.groupId = some h ∧
      h.after = countedRun ++ [] := ⟨_, rfl, rfl⟩
  have hfollows : fields.Follows [countedField] h.after := by
    rw [ha]
    exact .beside shows_countedRun (by decide) nofun
  have hgroups := hall fields ⟨"lib::S"⟩ countedPage h [countedField] hh hfollows
  rw [items_groups _ hh hfollows] at hgroups
  have hnames := congrArg (fun gs => gs.flatMap fun g => g.members.map Doc.name) hgroups
  exact absurd hnames (by decide)

end PartList

end CrateDocs.Page
