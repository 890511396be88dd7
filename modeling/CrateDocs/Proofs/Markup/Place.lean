import CrateDocs.Markup.Place

/-!
The places of a document. A place belongs to a document if the path to it leads through the
children of the nodes around it; the element places that belong to a document are those that a
search runs over.
-/

namespace CrateDocs.Markup

theorem find?_eq_some_of_only {α : Type} {as : List α} {f : α → Bool} {a : α} (ha : a ∈ as)
    (hf : f a = true) (honly : ∀ b ∈ as, f b = true → b = a) : as.find? f = some a := by
  cases hfind : as.find? f with
  | none => exact absurd hf (List.find?_eq_none.mp hfind a ha)
  | some b =>
    exact congrArg some (honly b (List.mem_of_find?_eq_some hfind) (List.find?_some hfind))

namespace Node

theorem elements_eq (ns : List Node) :
    elements ns = (ns.filter isElement).flatMap fun n => n :: n.descendants := by
  induction ns with
  | nil => rfl
  | cons n r ih =>
    rw [elements, ih, List.filter_cons]
    cases n.isElement <;> simp

theorem descendants_eq (n : Node) :
    n.descendants = n.childElements.flatMap fun c => c :: c.descendants := by
  cases n with
  | element name as cs => exact elements_eq cs
  | text => rfl

end Node

namespace Place

variable {p q : Place} {n : Node} {ns : List Node}

theorem map_node_elementsFrom (p : Place) (before ns : List Node) :
    (elementsFrom p before ns).map node = ns.filter Node.isElement := by
  induction ns generalizing before with
  | nil => rfl
  | cons n r ih =>
    rw [elementsFrom, List.filter_cons]
    split
    · rw [List.map_cons, ih]
      rfl
    · exact ih (n :: before)

theorem map_node_following (p : Place) : p.following.map node = p.after.filter Node.isElement := by
  cases p with
  | top => rfl
  | under q b n a => exact map_node_elementsFrom q (n :: b) a

theorem map_node_childElements (p : Place) : p.childElements.map node = p.node.childElements :=
  map_node_elementsFrom p [] p.node.children

/-- What holds of a place if it holds of the elements right below it holds of every place. -/
@[elab_as_elim]
theorem childInduction {motive : Place → Prop}
    (step : ∀ p, (∀ q ∈ p.childElements, motive q) → motive p) (p : Place) : motive p :=
  step p fun q hq =>
    have hc : q.node ∈ p.node.children := by
      have hm : q.node ∈ p.childElements.map node := List.mem_map_of_mem hq
      rw [map_node_childElements] at hm
      exact (List.mem_filter.mp hm).1
    have : sizeOf q.node < sizeOf p.node := by
      cases hn : p.node with
      | element name as cs =>
        rw [hn] at hc
        have := List.sizeOf_lt_of_mem hc
        simp only [Node.children] at this
        simp only [Node.element.sizeOf_spec]
        omega
      | text => simp [hn, Node.children] at hc
    childInduction step q
termination_by sizeOf p.node

theorem ofNodes_eq (p : Place) (before ns : List Node) :
    ofNodes p before ns =
      (elementsFrom p before ns).flatMap fun q => q :: q.descendants := by
  induction ns generalizing before with
  | nil => rfl
  | cons n r ih =>
    cases n with
    | element name as cs =>
      simp only [ofNodes, ih, elementsFrom, Node.isElement, if_true, List.flatMap_cons, ofNode]
      rfl
    | text => simp [ofNodes, ih, elementsFrom, Node.isElement, ofNode]

theorem descendants_eq (p : Place) :
    p.descendants = p.childElements.flatMap fun q => q :: q.descendants :=
  ofNodes_eq p [] p.node.children

theorem mem_descendants_iff :
    q ∈ p.descendants ↔ ∃ c ∈ p.childElements, q = c ∨ q ∈ c.descendants := by
  rw [descendants_eq, List.mem_flatMap]
  simp only [List.mem_cons]

theorem map_node_descendants (p : Place) : p.descendants.map node = p.node.descendants := by
  induction p using childInduction with
  | step p ih =>
    rw [descendants_eq, Node.descendants_eq, ← map_node_childElements, List.map_flatMap,
      List.flatMap_map, List.flatMap_def, List.flatMap_def]
    refine congrArg List.flatten (List.map_congr_left fun q hq => ?_)
    rw [List.map_cons, ih q hq]

theorem descendants_subset (hq : q ∈ p.descendants) {r : Place} (hr : r ∈ q.descendants) :
    r ∈ p.descendants := by
  induction p using childInduction with
  | step p ih =>
    obtain ⟨c, hc, rfl | hq⟩ := mem_descendants_iff.mp hq
    · exact mem_descendants_iff.mpr ⟨q, hc, .inr hr⟩
    · exact mem_descendants_iff.mpr ⟨c, hc, .inr (ih c hc hq)⟩

inductive IsOf (ns : List Node) : Place → Prop
  | top : IsOf ns (top ns)
  | under {p : Place} {before after : List Node} {n : Node} : IsOf ns p →
      p.node.children = before.reverse ++ n :: after → IsOf ns (under p before n after)

theorem isOf_of_mem_elementsFrom (hp : p.IsOf ns) {b r : List Node}
    (h : p.node.children = b.reverse ++ r) (hq : q ∈ elementsFrom p b r) :
    q.IsOf ns ∧ q.node.isElement = true := by
  induction r generalizing b with
  | nil => cases hq
  | cons n t ih =>
    have ht : p.node.children = (n :: b).reverse ++ t := by simp [h]
    rw [elementsFrom] at hq
    split at hq
    · next he =>
      rcases List.mem_cons.mp hq with rfl | hq
      · exact ⟨.under hp h, he⟩
      · exact ih ht hq
    · exact ih ht hq

theorem isOf_of_mem_childElements (hp : p.IsOf ns) (hq : q ∈ p.childElements) :
    q.IsOf ns ∧ q.node.isElement = true :=
  isOf_of_mem_elementsFrom hp rfl hq

theorem isOf_of_mem_following (hp : p.IsOf ns) (hq : q ∈ p.following) :
    q.IsOf ns ∧ q.node.isElement = true := by
  cases hp with
  | top => cases hq
  | under hp h => exact isOf_of_mem_elementsFrom hp (by simp [h]) hq

theorem isOf_of_mem_descendants (hp : p.IsOf ns) (hq : q ∈ p.descendants) :
    q.IsOf ns ∧ q.node.isElement = true := by
  induction p using childInduction with
  | step p ih =>
    obtain ⟨c, hc, rfl | hq⟩ := mem_descendants_iff.mp hq
    · exact isOf_of_mem_childElements hp hc
    · exact ih c hc (isOf_of_mem_childElements hp hc).1 hq

theorem eq_of_path (hp : p.IsOf ns) (hq : q.IsOf ns) (h : p.path = q.path) : p = q := by
  induction hp generalizing q with
  | top =>
    cases hq with
    | top => rfl
    | under => cases h
  | under hp hc ih =>
    cases hq with
    | top => cases h
    | under hq hd =>
      obtain ⟨hl, hpath⟩ := List.cons.inj h
      obtain rfl := ih hq hpath
      obtain ⟨hb, hr⟩ := List.append_inj (hc.symm.trans hd) (by simpa using hl)
      obtain ⟨rfl, rfl⟩ := List.cons.inj hr
      obtain rfl := List.reverse_inj.mp hb
      rfl

theorem mem_elementsFrom (p : Place) (hn : n.isElement = true) (b l a : List Node) :
    under p (l.reverse ++ b) n a ∈ elementsFrom p b (l ++ n :: a) := by
  induction l generalizing b with
  | nil => simp [elementsFrom, hn]
  | cons m l ih =>
    have hm := ih (m :: b)
    have hl : (m :: l).reverse ++ b = l.reverse ++ m :: b := by simp
    rw [List.cons_append, elementsFrom, hl]
    split
    · exact List.mem_cons_of_mem _ hm
    · exact hm

theorem mem_childElements {b a : List Node} (hn : n.isElement = true)
    (h : p.node.children = b.reverse ++ n :: a) : under p b n a ∈ p.childElements := by
  have hm := mem_elementsFrom p hn [] b.reverse a
  rw [List.reverse_reverse, List.append_nil, ← h] at hm
  exact hm

theorem parent_of_mem_elementsFrom {b r : List Node} (hq : q ∈ elementsFrom p b r) :
    q.parent? = some p := by
  induction r generalizing b with
  | nil => cases hq
  | cons n t ih =>
    rw [elementsFrom] at hq
    split at hq
    · rcases List.mem_cons.mp hq with rfl | hq
      · rfl
      · exact ih hq
    · exact ih hq

theorem following_of_elementsFrom {before : List Node} {l r : List Place}
    (h : elementsFrom p before ns = l ++ q :: r) : q.following = r := by
  induction ns generalizing before l with
  | nil => simp [elementsFrom] at h
  | cons n t ih =>
    rw [elementsFrom] at h
    split at h
    · cases l with
      | nil =>
        obtain ⟨rfl, hr⟩ := List.cons.inj h
        exact hr
      | cons c l => exact ih (List.cons.inj h).2
    · exact ih h

theorem preceding_of_elementsFrom {before : List Node} {l r : List Place}
    (h : elementsFrom p before ns = l ++ q :: r) :
    q.preceding = l.reverse ++ elementsBefore p before ns := by
  induction ns generalizing before l with
  | nil => simp [elementsFrom] at h
  | cons n t ih =>
    rw [elementsFrom] at h
    split at h
    · next he =>
      cases l with
      | nil =>
        obtain ⟨rfl, -⟩ := List.cons.inj h
        rfl
      | cons c l =>
        obtain ⟨rfl, ht⟩ := List.cons.inj h
        rw [ih ht, elementsBefore, if_pos he, List.reverse_cons, List.append_assoc,
          List.singleton_append]
    · next he => rw [ih h, elementsBefore, if_neg he]

theorem preceding_of_childElements {l r : List Place} (h : p.childElements = l ++ q :: r) :
    q.preceding = l.reverse := by
  rw [preceding_of_elementsFrom h, elementsBefore, List.append_nil]

theorem parent_of_mem_descendants (h : q ∈ p.descendants) :
    ∃ s, q.parent? = some s ∧ (s = p ∨ s ∈ p.descendants) := by
  induction p using childInduction with
  | step p ih =>
    obtain ⟨c, hc, rfl | hq⟩ := mem_descendants_iff.mp h
    · exact ⟨p, parent_of_mem_elementsFrom hc, .inl rfl⟩
    · obtain ⟨s, hs, rfl | hm⟩ := ih c hc hq
      · exact ⟨s, hs, .inr (mem_descendants_iff.mpr ⟨s, hc, .inl rfl⟩)⟩
      · exact ⟨s, hs, .inr (mem_descendants_iff.mpr ⟨c, hc, .inr hm⟩)⟩

theorem mem_descendants_of_child (h : q ∈ p.childElements) : q ∈ p.descendants :=
  mem_descendants_iff.mpr ⟨q, h, .inl rfl⟩

theorem ne_top_of_mem_descendants (h : q ∈ p.descendants) : q ≠ top ns := by
  induction p using childInduction with
  | step p ih =>
    obtain ⟨c, hc, rfl | hq⟩ := mem_descendants_iff.mp h
    · rintro rfl
      cases parent_of_mem_elementsFrom hc
    · exact ih c hc hq

end Place

open Place

variable {d : Document} {p q : Place}

theorem Document.mem_places_iff :
    q ∈ d.places ↔ q.IsOf d.children ∧ q.node.isElement = true ∧ q ≠ top d.children := by
  constructor
  · intro h
    obtain ⟨ho, he⟩ := isOf_of_mem_descendants .top h
    exact ⟨ho, he, ne_top_of_mem_descendants h⟩
  · rintro ⟨ho, he, hne⟩
    induction ho with
    | top => exact absurd rfl hne
    | @under p b a n hp h ih =>
      have hc : Place.under p b n a ∈ p.childElements := mem_childElements he h
      by_cases ht : p = top d.children
      · subst ht
        exact mem_descendants_of_child hc
      · have hp' : p.node.isElement = true := by
          cases hn : p.node with
          | element => rfl
          | text => simp [hn, Node.children] at h
        exact descendants_subset (ih hp' ht) (mem_descendants_of_child hc)

theorem Document.eq_of_path (hp : p ∈ d.places) (hq : q ∈ d.places) (h : p.path = q.path) :
    p = q :=
  Place.eq_of_path (mem_places_iff.mp hp).1 (mem_places_iff.mp hq).1 h

theorem Document.descendants_subset_places (hp : p ∈ d.places) (hq : q ∈ p.descendants) :
    q ∈ d.places :=
  descendants_subset hp hq

theorem Document.following_subset_places (hp : p ∈ d.places) (hq : q ∈ p.following) :
    q ∈ d.places := by
  obtain ⟨ho, -, -⟩ := mem_places_iff.mp hp
  obtain ⟨hoq, he⟩ := isOf_of_mem_following ho hq
  refine mem_places_iff.mpr ⟨hoq, he, ?_⟩
  rintro rfl
  cases p with
  | top => cases hq
  | under => cases parent_of_mem_elementsFrom hq

theorem Document.exists_childElements (hp : p ∈ d.places) :
    ∃ (s : Place) (l r : List Place), s.IsOf d.children ∧ s.childElements = l ++ p :: r := by
  obtain ⟨ho, he, hne⟩ := mem_places_iff.mp hp
  cases ho with
  | top => exact absurd rfl hne
  | @under s b a n hs h =>
    obtain ⟨l, r, hlr⟩ := List.append_of_mem (mem_childElements he h)
    exact ⟨s, l, r, hs, hlr⟩

theorem Document.mem_places_of_childElements (hp : p.IsOf d.children) (hq : q ∈ p.childElements) :
    q ∈ d.places := by
  obtain ⟨ho, he⟩ := isOf_of_mem_childElements hp hq
  exact mem_places_iff.mpr ⟨ho, he, ne_top_of_mem_descendants (mem_descendants_of_child hq)⟩

theorem Document.previous?_eq_some_iff (hp : p ∈ d.places) :
    p.previous? = some q ↔ q ∈ d.places ∧ q.next? = some p := by
  constructor
  · intro h
    obtain ⟨s, l, r, hs, hlr⟩ := exists_childElements hp
    rw [previous?, preceding_of_childElements hlr] at h
    obtain ⟨l', hl⟩ := List.head?_eq_some_iff.mp h
    have hsplit : s.childElements = l'.reverse ++ q :: p :: r := by
      rw [hlr, List.reverse_eq_iff.mp hl]
      simp
    refine ⟨mem_places_of_childElements hs (hsplit ▸ by simp), ?_⟩
    rw [next?, following_of_elementsFrom hsplit, List.head?_cons]
  · rintro ⟨hq, h⟩
    obtain ⟨s, l, r, -, hlr⟩ := exists_childElements hq
    rw [next?, following_of_elementsFrom hlr] at h
    obtain ⟨r', rfl⟩ := List.head?_eq_some_iff.mp h
    have hsplit : s.childElements = (l ++ [q]) ++ p :: r' := by simp [hlr]
    rw [previous?, preceding_of_childElements hsplit, List.reverse_append]
    rfl

end CrateDocs.Markup
