import CrateDocs.Proofs.Markup.Place

/-!
Documents in which the children of an element with an id are changed. The first element with the id
stays where it is, and as long as children are only taken away or moved, no id comes up that was not
there before.
-/

namespace CrateDocs.Markup

/-- Nodes, and the same ones with other children below one element with an id. The element does not
stand inside another one with the id. -/
inductive Edited (id : String) (R : List Node → List Node → Prop) : List Node → List Node → Prop
  | here {name : String} {as : List Attribute} {cs cs' r : List Node} :
      attribute? "id" as = some id → R cs cs' →
      Edited id R (.element name as cs :: r) (.element name as cs' :: r)
  | inside {name : String} {as : List Attribute} {cs cs' r : List Node} :
      attribute? "id" as ≠ some id → Edited id R cs cs' →
      Edited id R (.element name as cs :: r) (.element name as cs' :: r)
  | later {n : Node} {r r' : List Node} : Edited id R r r' → Edited id R (n :: r) (n :: r')

namespace Node

def HasId (id : String) (ns : List Node) : Prop := ∃ n ∈ elements ns, n.id? = some id

variable {id : String} {n : Node} {ns : List Node}

theorem elements_cons (n : Node) (ns : List Node) :
    elements (n :: ns) = elements [n] ++ elements ns := by
  simp only [elements]
  cases n.isElement <;> simp

theorem elements_element (name : String) (as : List Attribute) (cs ns : List Node) :
    elements (.element name as cs :: ns) = .element name as cs :: (elements cs ++ elements ns) :=
  rfl

theorem hasId_cons : HasId id (n :: ns) ↔ HasId id [n] ∨ HasId id ns := by
  simp only [HasId]
  rw [elements_cons]
  simp only [List.mem_append, or_and_right, exists_or]

theorem hasId_element {name : String} {as : List Attribute} {cs : List Node} :
    HasId id (.element name as cs :: ns) ↔
      attribute? "id" as = some id ∨ HasId id cs ∨ HasId id ns := by
  simp only [HasId, elements_element, List.mem_cons, List.mem_append, or_and_right, exists_or,
    exists_eq_left]
  rfl

theorem hasId_of_subset {ms : List Node} (h : ms ⊆ ns) (hid : HasId id ms) : HasId id ns := by
  obtain ⟨n, hn, hid⟩ := hid
  refine ⟨n, ?_, hid⟩
  rw [elements_eq, List.mem_flatMap] at hn ⊢
  obtain ⟨m, hm, hn⟩ := hn
  exact ⟨m, List.filter_subset _ h hm, hn⟩

def firstWithId (id : String) (ns : List Node) : Option Node :=
  (elements ns).find? fun n => n.id? == some id

theorem firstWithId_eq_none_iff : firstWithId id ns = none ↔ ¬HasId id ns := by
  simp only [firstWithId, HasId, List.find?_eq_none, beq_iff_eq, not_exists, not_and]

theorem firstWithId_cons (n : Node) (ns : List Node) :
    firstWithId id (n :: ns) = (firstWithId id [n]).or (firstWithId id ns) := by
  rw [firstWithId, elements_cons, List.find?_append]
  rfl

section Element

variable {name : String} {as : List Attribute}

theorem firstWithId_element (h : attribute? "id" as = some id) (cs ns : List Node) :
    firstWithId id (.element name as cs :: ns) = some (.element name as cs) :=
  List.find?_cons_of_pos (beq_iff_eq.mpr h)

theorem firstWithId_element_of_ne (h : attribute? "id" as ≠ some id) (cs ns : List Node) :
    firstWithId id (.element name as cs :: ns) =
      (firstWithId id cs).or (firstWithId id ns) := by
  have hne : ¬(Node.element name as cs).id? = some id := h
  simp only [firstWithId, elements_element, List.find?_cons, List.find?_append,
    beq_eq_false_iff_ne.mpr hne]

end Element

end Node

theorem Document.map_node_byId? (d : Document) (id : String) :
    (d.byId? id).map Place.node = Node.firstWithId id d.children := by
  have hplaces : Node.elements d.children = d.places.map Place.node :=
    (Place.map_node_descendants (.top d.children)).symm
  rw [Node.firstWithId, hplaces, List.find?_map]
  rfl

namespace Edited

open Node

variable {id : String} {R : List Node → List Node → Prop} {ns ns' : List Node}

theorem hasId (h : Edited id R ns ns') (hR : ∀ cs cs', R cs cs' → cs' ⊆ cs) {other : String}
    (hid : HasId other ns') : HasId other ns := by
  induction h with
  | here _ hcs =>
    rw [hasId_element] at hid ⊢
    exact hid.imp_right (Or.imp_left (hasId_of_subset (hR _ _ hcs)))
  | inside _ _ ih =>
    rw [hasId_element] at hid ⊢
    exact hid.imp_right (Or.imp_left ih)
  | later _ ih =>
    rw [hasId_cons] at hid ⊢
    exact hid.imp_right ih

theorem firstWithId (h : Edited id R ns ns') (hR : ∀ cs cs', R cs cs' → cs' ⊆ cs) {n : Node}
    (hn : firstWithId id ns = some n) :
    ∃ n', Node.firstWithId id ns' = some n' ∧ (n' = n ∨ R n.children n'.children) := by
  -- Along the way to the element that changes. An element before it or beside it is found as
  -- before.
  induction h with
  | @here name as cs cs' r has hcs =>
    rw [firstWithId_element has] at hn ⊢
    obtain rfl := Option.some.inj hn
    exact ⟨_, rfl, .inr hcs⟩
  | @inside name as cs cs' r has hcs ih =>
    rw [firstWithId_element_of_ne has] at hn ⊢
    cases hfind : Node.firstWithId id cs with
    | some m =>
      obtain rfl : m = n := by simpa [hfind] using hn
      obtain ⟨m', hm', hrel⟩ := ih hfind
      exact ⟨m', by rw [hm', Option.some_or], hrel⟩
    | none =>
      have hnone : ¬HasId id cs' :=
        fun hid => firstWithId_eq_none_iff.mp hfind (hasId hcs hR hid)
      rw [hfind, Option.none_or] at hn
      exact ⟨n, by rw [firstWithId_eq_none_iff.mpr hnone, Option.none_or, hn], .inl rfl⟩
  | @later m r r' _ ih =>
    rw [firstWithId_cons] at hn ⊢
    cases hfind : Node.firstWithId id [m] with
    | some m =>
      obtain rfl : m = n := by simpa [hfind] using hn
      exact ⟨m, by rw [Option.some_or], .inl rfl⟩
    | none =>
      rw [hfind, Option.none_or] at hn
      obtain ⟨n', hn', hrel⟩ := ih hn
      exact ⟨n', by rw [hn', Option.none_or], hrel⟩

end Edited

end CrateDocs.Markup
