import CrateDocs.Markup.Printer
import CrateDocs.Markup.Visible
import CrateDocs.Proofs.Markup.Place
import CrateDocs.Proofs.Text.Split
import Mathlib.Data.List.Forall2

/-!
Shapes of elements. A shape says how an element is named, what it is for, and what is inside it; a
list of shapes describes the elements among some nodes one after the other, whatever texts are
between them. What a search finds and what a reader sees follow from the shape.
-/

namespace CrateDocs.Text

theorem trim_concat_blank {s : List Char} {c : Char} (h : isBlank c = true) :
    trim (s ++ [c]) = trim s := by
  unfold trim trimStart
  rw [List.dropWhile_append]
  split
  · next he =>
    rw [List.isEmpty_iff.mp he]
    simp [h]
  · exact trimEnd_append_blanks (by simpa using h)

end CrateDocs.Text

namespace CrateDocs.Markup

abbrev Shape := Node → Prop

/-- Nodes whose elements have some shapes, in this order. -/
def Shapes (ss : List Shape) (ns : List Node) : Prop :=
  List.Forall₂ (fun s n => s n) ss (ns.filter Node.isElement)

def IsText (s : String) (ns : List Node) : Prop := ns = [.text .plain s]

def IsTrimmed (s : String) : Prop := Text.trim s.toList = s.toList

instance (s : String) : Decidable (IsTrimmed s) := inferInstanceAs (Decidable (_ = _))

theorem exists_of_mem_forall₂ {α β : Type} {R : α → β → Prop} {as : List α}
    {bs : List β} (h : List.Forall₂ R as bs) {b : β} (hb : b ∈ bs) :
    ∃ a ∈ as, R a b := by
  induction h with
  | nil => cases hb
  | cons hr _ ih =>
    rcases List.mem_cons.mp hb with rfl | hb
    · exact ⟨_, List.mem_cons_self, hr⟩
    · obtain ⟨a, ha, hab⟩ := ih hb
      exact ⟨a, List.mem_cons_of_mem _ ha, hab⟩

namespace Shapes

variable {s t : Shape} {ss ts : List Shape} {ns : List Node}

theorem one {l : List Node} (h : List.Forall₂ (fun s n => s n) [s] l) : ∃ n, l = [n] ∧ s n := by
  obtain ⟨n, r, hs, hr, rfl⟩ := List.forall₂_cons_left_iff.mp h
  obtain rfl := List.forall₂_nil_left_iff.mp hr
  exact ⟨n, rfl, hs⟩

theorem two {l : List Node} (h : List.Forall₂ (fun s n => s n) [s, t] l) :
    ∃ m n, l = [m, n] ∧ s m ∧ t n := by
  obtain ⟨m, r, hs, hr, rfl⟩ := List.forall₂_cons_left_iff.mp h
  obtain ⟨n, rfl, ht⟩ := one hr
  exact ⟨m, n, rfl, hs, ht⟩

theorem exists_append {l : List Node} (h : List.Forall₂ (fun s n => s n) (ss ++ ts) l) :
    ∃ front rest, l = front ++ rest ∧ List.Forall₂ (fun s n => s n) ss front ∧
      List.Forall₂ (fun s n => s n) ts rest := by
  induction ss generalizing l with
  | nil => exact ⟨[], l, rfl, .nil, h⟩
  | cons s ss ih =>
    obtain ⟨n, r, hs, hr, rfl⟩ := List.forall₂_cons_left_iff.mp h
    obtain ⟨front, rest, rfl, hfront, hrest⟩ := ih hr
    exact ⟨n :: front, rest, rfl, .cons hs hfront, hrest⟩

theorem flatMap_eq {α β : Type} {shapes : α → List Shape} {read : Node → List β}
    {out : α → List β} {as : List α} {l : List Node}
    (hread : ∀ a ∈ as, ∀ l, List.Forall₂ (fun s n => s n) (shapes a) l → l.flatMap read = out a)
    (h : List.Forall₂ (fun s n => s n) (as.flatMap shapes) l) :
    l.flatMap read = as.flatMap out := by
  induction as generalizing l with
  | nil =>
    cases h
    rfl
  | cons a r ih =>
    rw [List.flatMap_cons] at h
    obtain ⟨front, rest, rfl, hfront, hrest⟩ := exists_append h
    rw [List.flatMap_append, List.flatMap_cons, hread a List.mem_cons_self front hfront,
      ih (fun b hb => hread b (List.mem_cons_of_mem a hb)) hrest]

end Shapes

namespace Node

variable {p : Node → Bool} {n c : Node}

theorem isNamed_of_name? {name : String} {names : List String} (h : n.name? = some name) :
    n.isNamed names = names.contains name := by
  cases n with
  | element =>
    cases h
    rfl
  | text => cases h

theorem isElement_of_name? {name : String} (h : n.name? = some name) : n.isElement = true := by
  cases n with
  | element => rfl
  | text => cases h

theorem name?_of_isNamed {name : String} (h : n.isNamed [name] = true) : n.name? = some name := by
  cases n with
  | element name' => exact congrArg some (by simpa [isNamed] using h)
  | text => cases h

theorem search_eq (p : Node → Bool) (n : Node) :
    n.search p = n.childElements.findSome? fun c => if p c then some c else c.search p := by
  have h (l : List Node) : (l.flatMap fun c => c :: c.descendants).find? p =
      l.findSome? fun c => if p c then some c else c.search p := by
    induction l with
    | nil => rfl
    | cons c r ih =>
      rw [List.flatMap_cons, List.findSome?_cons, List.find?_append, ih, List.find?_cons]
      cases hc : p c with
      | true => rfl
      | false =>
        rw [if_neg (by simp)]
        show (c.search p).or _ = _
        cases c.search p <;> rfl
  rw [search, descendants_eq, h]

theorem search_of_childElements (h : n.childElements = [c]) :
    n.search p = if p c then some c else c.search p := by
  rw [search_eq, h, List.findSome?_singleton]

theorem search_of_no_elements (h : n.childElements = []) : n.search p = none := by
  rw [search_eq, h, List.findSome?_nil]

theorem isSkipped_eq_false (h : ∀ c ∈ skippedClasses, n.hasClass c = false) :
    n.isSkipped = false := by
  simpa [isSkipped] using h

/-- An element that neither breaks the line nor has a meaning of its own for the texts in it. -/
def IsOrdinary (n : Node) : Prop :=
  ∃ name, n.name? = some name ∧ name ∉ ["br", "rp", "rt", "script", "style", "template"]

theorem IsOrdinary.isElement (h : n.IsOrdinary) : n.isElement = true := by
  obtain ⟨name, hn, -⟩ := h
  exact isElement_of_name? hn

theorem IsOrdinary.isBreak (h : n.IsOrdinary) : Visible.isBreak n = false := by
  obtain ⟨name, hn, ho⟩ := h
  rw [Visible.isBreak, isNamed_of_name? hn]
  simp only [List.mem_cons, not_or] at ho
  simpa using ho.1

theorem IsOrdinary.content (h : n.IsOrdinary) :
    n.content = (Node.element "div" [] n.children).content := by
  obtain ⟨name, hn, ho⟩ := h
  cases n with
  | text => cases hn
  | element name' as cs =>
    obtain rfl : name' = name := Option.some.inj hn
    simp only [List.mem_cons, not_or] at ho
    have hcounts : TextKind.counts name' = TextKind.counts "div" := by
      funext k
      cases k <;> simp [TextKind.counts, ho]
    rw [Node.content, Node.content, hcounts, children]

theorem IsOrdinary.innerMarkup (h : n.IsOrdinary) :
    n.innerMarkup = (Node.element "div" [] n.children).innerMarkup := by
  obtain ⟨name, hn, ho⟩ := h
  cases n with
  | text => cases hn
  | element name' as cs =>
    obtain rfl : name' = name := Option.some.inj hn
    simp only [List.mem_cons, not_or] at ho
    have hnodes (ns : List Node) : Printer.nodes name' ns = Printer.nodes "div" ns := by
      induction ns with
      | nil => rfl
      | cons m r ih =>
        have hm : Printer.node name' m = Printer.node "div" m := by
          cases m with
          | element => rw [Printer.node, Printer.node]
          | text k s =>
            have hraw : rawElements.contains name' = false := by simp [rawElements, ho]
            rw [Printer.node, Printer.node]
            unfold Printer.text
            rw [hraw]
            rfl
        rw [Printer.nodes, Printer.nodes, hm, ih]
    rw [Node.innerMarkup, Node.innerMarkup, hnodes, children]

theorem visible_of_text {s : String} (hs : n.isSkipped = false) (hd : n.isDocblock = false)
    (hb : Visible.isBreak n = false) (ht : IsText s n.children) (htrim : IsTrimmed s) :
    n.visible = s := by
  cases n with
  | text => cases ht
  | element name as cs =>
    obtain rfl : cs = [.text .plain s] := ht
    have henter : Visible.enter (.element name as [.text .plain s]) [] = [] := by
      simp [Visible.enter, hb, Visible.endLine]
    rw [visible, Visible.node, if_neg (by simp [hs]), henter, Visible.leave, if_neg (by simp [hd])]
    simp only [Visible.nodes, Visible.node, TextKind.isHidden, Bool.false_eq_true, if_false,
      List.append_nil, List.reverse_reverse]
    rw [htrim, String.ofList_toList]

theorem visible_of_element (he : n.isElement = true) (hs : n.isSkipped = false)
    (hb : Visible.isBreak n = false) : n.visible = Document.visible ⟨n.children⟩ := by
  cases n with
  | text => cases he
  | element name as cs =>
    have henter : Visible.enter (.element name as cs) [] = [] := by
      simp [Visible.enter, hb, Visible.endLine]
    have htrim (out : List Char) :
        Text.trim (Visible.endLine out).reverse = Text.trim out.reverse := by
      unfold Visible.endLine
      split
      · rfl
      · rfl
      · rw [List.reverse_cons, Text.trim_concat_blank (by decide)]
    rw [visible, Visible.node, if_neg (by simp [hs]), henter, Visible.leave]
    split
    · rw [htrim, Document.visible, children]
    · rfl

end Node

end CrateDocs.Markup
