import CrateDocs.Proofs.Markup.Order
import CrateDocs.Proofs.Page.Item
import CrateDocs.Proofs.Page.Parts

/-!
Descriptions of items on pages that list fields or variants. The search for a description ends at
the first block of documentation right below the main element. On a page that does not describe the
item this is a block of the list, so that the item is shown with the description of a member.
-/

namespace CrateDocs.Page

open Markup

def isPlainBlock (n : Node) : Bool :=
  n.isDocblock && !n.hasClass "type-decl" && !n.hasClass "item-decl"

def isInMain (p : Place) : Bool := p.parent?.any fun m => m.node.id? == some "main"

/-- A page that lists some members right below the main element and describes nothing else there. -/
structure ListsParts (l : PartList) (ms : List Method) (d : Document) (main : Place)
    (before : List Node) (heading : Node) (run rest : List Node) : Prop where
  isMain : main.node.id? = some "main"
  found : d.byId? l.kind.groupId = some (.under main before heading (run ++ rest))
  shows : l.Shows ms run
  unopened : ∀ n ∈ run, l.opens n = false
  ended : ∀ n ∈ (rest.filter Node.isElement).head?, l.ends n = true
  unfolded : ∀ q ∈ d.places, (q.node.isNamed ["details"] && q.node.hasClass "top-doc") = false
  alone : ∀ q ∈ d.places, isPlainBlock q.node = true → isInMain q = true → q.parent? = some main
  outside : ∀ n ∈ before ++ heading :: rest, isPlainBlock n = false
  inside : ∀ n ∈ run, n.isDocblock = true → isPlainBlock n = true ∧ l.isHeading n = false

variable {l : PartList} {m : Method} {ms : List Method} {d : Document} {main : Place} {heading : Node}
  {before run rest : List Node}

theorem inTopDoc_eq_false {q : Place} (id : String) (hq : q ∈ d.places)
    (h : ∀ q ∈ d.places, (q.node.isNamed ["details"] && q.node.hasClass "top-doc") = false) :
    inTopDoc id q = false := by
  obtain ⟨s, hs, hd⟩ := Place.parent_of_mem_descendants hq
  have hnot : (s.node.isNamed ["details"] && s.node.hasClass "top-doc") = false := by
    rcases hd with rfl | hd
    · rfl
    · exact h s hd
  rw [inTopDoc, hs]
  simp only [hnot, Bool.false_and, Bool.and_false]

theorem description?_of_unfolded
    (h : ∀ q ∈ d.places, (q.node.isNamed ["details"] && q.node.hasClass "top-doc") = false) :
    description? d =
      (d.places.find? fun q => isPlainBlock q.node && isInMain q).bind fun q =>
        Prose.ofNode? q.node := by
  have hnone (name id : String) : (placeLayout name (inTopDoc id)).find d = none := by
    rw [placeLayout, Option.map_eq_none_iff, List.find?_eq_none]
    exact fun q hq => Bool.eq_false_iff.mp (inTopDoc_eq_false id hq h)
  have hlast : (placeLayout "plain top doc" fun p =>
      p.node.isDocblock && !p.node.hasClass "type-decl" && !p.node.hasClass "item-decl" &&
        p.parent?.any fun m => m.node.id? == some "main").find d =
      (d.places.find? fun q => isPlainBlock q.node && isInMain q).map Place.node := rfl
  rw [description?, descriptionLayouts]
  simp only [Layout.first_cons, hnone, hlast, Layout.first_nil]
  cases d.places.find? fun q => isPlainBlock q.node && isInMain q <;> rfl

theorem find?_filter_of_imp {α : Type} {f p : α → Bool} {as : List α}
    (h : ∀ a ∈ as, f a = true → p a = true) : (as.filter p).find? f = as.find? f := by
  have hboth : ∀ a ∈ as, (f a && p a) = f a := by
    intro a ha
    cases hf : f a with
    | true => rw [h a ha hf, Bool.and_true]
    | false => rfl
  rw [← List.head?_filter, List.filter_filter, List.filter_congr hboth, List.head?_filter]

theorem isDocblock_of_isPlainBlock {n : Node} (h : isPlainBlock n = true) : n.isDocblock = true := by
  simp only [isPlainBlock, Bool.and_eq_true] at h
  exact h.1.1

theorem isElement_of_isPlainBlock {n : Node} (h : isPlainBlock n = true) : n.isElement = true := by
  cases n with
  | element => rfl
  | text => cases h

theorem ListsParts.isOf (h : ListsParts l ms d main before heading run rest) :
    main.IsOf d.children ∧ main.node.children = before.reverse ++ heading :: (run ++ rest) := by
  have hmem := List.mem_of_find?_eq_some h.found
  obtain ⟨ho, -, -⟩ := Document.mem_places_iff.mp hmem
  cases ho with
  | under hp hc => exact ⟨hp, hc⟩

theorem ListsParts.mem_places (h : ListsParts l ms d main before heading run rest) :
    main ∈ d.places := by
  have hid := h.isMain
  refine Document.mem_places_iff.mpr ⟨h.isOf.1, ?_, ?_⟩
  · cases hn : main.node with
    | element => rfl
    | text =>
      rw [hn] at hid
      cases hid
  · rintro rfl
    cases hid

theorem ListsParts.find?_isPlainBlock (h : ListsParts l ms d main before heading run rest) :
    main.node.childElements.find? isPlainBlock = run.find? isPlainBlock := by
  have hout (ns : List Node) (hns : ∀ n ∈ ns, n ∈ before ++ heading :: rest) :
      ns.find? isPlainBlock = none :=
    List.find?_eq_none.mpr fun n hn => Bool.eq_false_iff.mp (h.outside n (hns n hn))
  have hsplit : before.reverse ++ heading :: (run ++ rest) =
      (before.reverse ++ [heading]) ++ (run ++ rest) := by simp
  have hfront := hout (before.reverse ++ [heading]) (by grind)
  have hback := hout rest (by grind)
  rw [Node.childElements, find?_filter_of_imp fun n _ => isElement_of_isPlainBlock, h.isOf.2,
    hsplit, List.find?_append, hfront, Option.none_or, List.find?_append, hback, Option.or_none]

theorem isInMain_of_mem_childElements {q : Place} (h : main.node.id? = some "main")
    (hq : q ∈ main.childElements) : isInMain q = true := by
  rw [isInMain, Place.parent_of_mem_elementsFrom hq]
  exact beq_iff_eq.mpr h

theorem ListsParts.description?_eq (h : ListsParts l ms d main before heading run rest) :
    description? d = (run.find? isPlainBlock).bind Prose.ofNode? := by
  have hbelow (q : Place) (hq : q ∈ main.childElements) :
      (isPlainBlock q.node && isInMain q) = isPlainBlock q.node := by
    rw [isInMain_of_mem_childElements h.isMain hq, Bool.and_true]
  have hnodes : (main.childElements.find? fun q => isPlainBlock q.node && isInMain q).map
      Place.node = main.node.childElements.find? isPlainBlock := by
    rw [← Place.map_node_childElements, List.find?_map, ← List.head?_filter,
      List.filter_congr hbelow, List.head?_filter]
    rfl
  have hplaces := Document.find?_places h.mem_places
    (f := fun q => isPlainBlock q.node && isInMain q) fun q hq hf => by
      obtain ⟨hblock, hmain⟩ := Bool.and_eq_true_iff.mp hf
      exact h.alone q hq hblock hmain
  rw [description?_of_unfolded h.unfolded, hplaces, ← h.find?_isPlainBlock, ← hnodes,
    Option.bind_map]
  rfl

theorem map_ofNode?_filter {es : List Node}
    (h : List.Forall₂ (fun s n => s n) (ms.flatMap l.shapes) es)
    (hin : ∀ n ∈ es, n.isDocblock = true → isPlainBlock n = true ∧ l.isHeading n = false) :
    (es.filter isPlainBlock).map Prose.ofNode? =
      (ms.filterMap Method.description).map fun c => some (Method.prose c) := by
  -- A heading of a member is never one of the blocks, whatever its classes are.
  have hheading {m : Method} {n : Node} (hn : l.Heading m n) (hmem : n ∈ es) :
      ¬isPlainBlock n = true := fun hblock => by
    have hnot := (hin n hmem (isDocblock_of_isPlainBlock hblock)).2
    cases hnot.symm.trans hn.isHeading
  induction ms generalizing es with
  | nil =>
    cases h
    rfl
  | cons m ms ih =>
    rw [List.flatMap_cons] at h
    obtain ⟨front, rest, rfl, hfront, hrest⟩ := Shapes.exists_append h
    have hrest := ih hrest (fun n hn => hin n (List.mem_append_right front hn))
      fun hn hmem => hheading hn (List.mem_append_right front hmem)
    rw [List.filter_append, List.map_append, hrest, List.filterMap_cons]
    unfold PartList.shapes at hfront
    cases hd : m.description with
    | none =>
      rw [hd] at hfront
      obtain ⟨n, rfl, hn⟩ := Shapes.one hfront
      rw [List.filter_cons_of_neg (hheading hn (by simp))]
      rfl
    | some content =>
      rw [hd] at hfront
      obtain ⟨n, b, rfl, hn, hb⟩ := Shapes.two hfront
      rw [List.filter_cons_of_neg (hheading hn (by simp)),
        List.filter_cons_of_pos (hin b (by simp) hb.isDocblock).1, List.map_cons,
        ofNode?_div hb.name? hb.isSkipped hb.children (m.visible content hd)]
      rfl

theorem find?_isPlainBlock_of_shows (h : l.Shows ms run)
    (hin : ∀ n ∈ run, n.isDocblock = true → isPlainBlock n = true ∧ l.isHeading n = false) :
    (run.find? isPlainBlock).bind Prose.ofNode? =
      (ms.findSome? Method.description).map Method.prose := by
  have hpart : ∀ n ∈ run, isPlainBlock n = true → (!isIndifferent n) = true := by
    intro n _ hn
    have hdocblock : n.hasClass "docblock" = true := isDocblock_of_isPlainBlock hn
    simp [isIndifferent, listingClasses, hdocblock]
  have hblocks := map_ofNode?_filter h fun n hn =>
    hin n (List.mem_of_mem_filter (List.mem_of_mem_filter hn))
  have hfirst := congrArg List.head? hblocks
  rw [List.head?_map, List.head?_filter, find?_filter_of_imp fun n _ => isElement_of_isPlainBlock,
    find?_filter_of_imp hpart, List.head?_map, List.head?_filterMap] at hfirst
  cases hblock : run.find? isPlainBlock with
  | none =>
    rw [hblock] at hfirst
    rw [Option.map_eq_none_iff.mp hfirst.symm]
    rfl
  | some b =>
    rw [hblock] at hfirst
    obtain ⟨content, hcontent, hb⟩ := Option.map_eq_some_iff.mp hfirst.symm
    rw [hcontent]
    exact hb.symm

/-- On a page that passes `Page.check`, the first description of a member stands where the one of
the item is looked for. -/
theorem itemDoc_listsParts {p : Page}
    (h : ListsParts l ms p.document main before heading run rest) (name : Name) (k : Kind) :
    (p.itemDoc name k).description = (ms.findSome? Method.description).map Method.prose ∧
      ((p.itemDoc name k).description = none ↔ ∀ m ∈ ms, m.description = none) ∧
      (p.itemDoc name k).groupsOf l.kind =
        if ms.isEmpty then [] else [⟨none, ms.map (Method.docAs l.kind name)⟩] := by
  have hdescription : (p.itemDoc name k).description =
      (ms.findSome? Method.description).map Method.prose := by
    rw [description_itemDoc, h.description?_eq, find?_isPlainBlock_of_shows h.shows h.inside]
  have hgroups : (p.itemDoc name k).groupsOf l.kind = (l.groups p.document name).items := by
    refine groupsOf_itemDoc p name k ?_
    cases l with
    | fields => exact .tail _ (.head _)
    | variants => exact .head _
  refine ⟨hdescription, ?_, ?_⟩
  · rw [hdescription, Option.map_eq_none_iff, List.findSome?_eq_none_iff]
  · rw [hgroups]
    exact PartList.items_groups name h.found (.beside h.shows h.unopened h.ended)

theorem parent?_of_isInMain {q : Place} (h : withId "main" d = [main]) (hq : q ∈ d.places)
    (hin : isInMain q = true) : q.parent? = some main := by
  obtain ⟨s, hs, hd⟩ := Place.parent_of_mem_descendants hq
  have hid : (s.node.id? == some "main") = true := by
    rwa [isInMain, hs] at hin
  have hs' : s ∈ withId "main" d := by
    rcases hd with rfl | hd
    · cases hid
    · exact List.mem_filter.mpr ⟨hd, hid⟩
  rw [h] at hs'
  rw [hs, List.mem_singleton.mp hs']

def pairFields : List Method :=
  [⟨"a", "a: u8", some [.text .plain "About a."], by decide,
      Anchor.not_endsInCounter_of_not_mem (by decide), by decide, fun c hc => by cases hc; decide⟩,
    ⟨"b", "b: u8", some [.text .plain "About b."], by decide,
      Anchor.not_endsInCounter_of_not_mem (by decide), by decide, fun c hc => by cases hc; decide⟩]

def pairDeclaration : Node :=
  .element "div" [⟨"class", "docblock type-decl"⟩] [.text .plain "pub struct Pair"]

def pairHeading : Node := .element "h2" [⟨"id", "fields"⟩] [.text .plain "Fields"]

def pairRun : List Node :=
  let code (s : String) : Node := .element "code" [] [.text .plain s]
  [.element "span" [⟨"id", "structfield.a"⟩, ⟨"class", "structfield"⟩] [code "a: u8"],
    .element "div" [⟨"class", "docblock"⟩] [.text .plain "About a."],
    .element "span" [⟨"id", "structfield.b"⟩, ⟨"class", "structfield"⟩] [code "b: u8"],
    .element "div" [⟨"class", "docblock"⟩] [.text .plain "About b."]]

def pairMain : Node :=
  .element "section" [⟨"id", "main"⟩] (pairDeclaration :: pairHeading :: pairRun)

/-- A page that describes fields, but not the type. -/
def pairPage : Page := ⟨⟨[pairMain]⟩, none⟩

def pairPlace : Place := .under (.top [pairMain]) [] pairMain []

theorem listsParts_pairPage : ListsParts .fields pairFields pairPage.document pairPlace
    [pairDeclaration] pairHeading pairRun [] where
  isMain := rfl
  found := rfl
  shows := by
    have hcode {s : String} {n : Node}
        (hc : n.childElements = [.element "code" [] [.text .plain s]])
        (hv : (Node.element "code" [] [.text .plain s]).visible = s) : Declares s n :=
      PartList.declares_of_text hc (.inl rfl) hv rfl
    exact .cons ⟨by decide, by decide, hcode rfl (by decide)⟩
      (.cons ⟨rfl, by decide, by decide, by decide, rfl⟩
        (.cons ⟨by decide, by decide, hcode rfl (by decide)⟩
          (.cons ⟨rfl, by decide, by decide, by decide, rfl⟩ .nil)))
  unopened := by decide
  ended := nofun
  unfolded := by decide
  alone q hq _ := parent?_of_isInMain rfl hq
  outside := by decide
  inside := by decide

theorem itemDoc_listsParts_pair :
    ListsParts .fields pairFields pairPage.document pairPlace [pairDeclaration] pairHeading pairRun
      [] ∧
    (pairPage.itemDoc ⟨"lib::Pair"⟩ .struct).description = some ⟨"About a.", "About a."⟩ ∧
    (pairPage.itemDoc ⟨"lib::Pair"⟩ .struct).groupsOf .field = [⟨none, [
      .leaf ⟨"lib::Pair::a"⟩ .field (some "a: u8") (some ⟨"About a.", "About a."⟩),
      .leaf ⟨"lib::Pair::b"⟩ .field (some "b: u8") (some ⟨"About b.", "About b."⟩)]⟩] := by
  obtain ⟨hdescription, -, hgroups⟩ :=
    itemDoc_listsParts listsParts_pairPage ⟨"lib::Pair"⟩ .struct
  exact ⟨listsParts_pairPage, hdescription, hgroups⟩

/-- The description of a member may be that of the item. -/
theorem not_itemDoc_listsParts_undescribed :
    ¬∀ (l : PartList) (ms : List Method) (p : Page) (main : Place) (before : List Node)
      (heading : Node) (run rest : List Node),
      ListsParts l ms p.document main before heading run rest →
        ∀ name k, (p.itemDoc name k).description = none := by
  intro hall
  have hnone := hall _ _ pairPage _ _ _ _ _ listsParts_pairPage ⟨"lib::Pair"⟩ .struct
  rw [description_itemDoc] at hnone
  cases hnone

end CrateDocs.Page
