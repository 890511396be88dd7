import CrateDocs.Proofs.Markup.Place
import Mathlib.Data.List.Infix
import Mathlib.Data.List.Nodup

/-!
The order of the places of a document. Every place stands there once, and the elements right below a
place stand there in their order; what is found first in the document is found first below a place
if it can only be there.
-/

namespace CrateDocs.Markup

theorem find?_eq_of_sublist {α : Type} {f : α → Bool} {l as : List α} (h : l.Sublist as)
    (hd : as.Nodup) (hf : ∀ a ∈ as, f a = true → a ∈ l) : as.find? f = l.find? f := by
  induction h with
  | slnil => rfl
  | @cons l r a hl ih =>
    obtain ⟨ha, hr⟩ := List.nodup_cons.mp hd
    have hfa : ¬f a = true := fun hfa => ha (hl.subset (hf a (by simp) hfa))
    rw [List.find?_cons_of_neg hfa]
    exact ih hr fun b hb => hf b (by simp [hb])
  | @cons_cons l r a hl ih =>
    obtain ⟨-, hr⟩ := List.nodup_cons.mp hd
    by_cases hfa : f a = true
    · rw [List.find?_cons_of_pos hfa, List.find?_cons_of_pos hfa]
    · rw [List.find?_cons_of_neg hfa, List.find?_cons_of_neg hfa]
      refine ih hr fun b hb hfb => (List.mem_cons.mp (hf b (by simp [hb]) hfb)).resolve_left ?_
      rintro rfl
      exact hfa hfb

namespace Place

variable {p q c : Place}

def line (p : Place) : List Place := p :: p.ancestors

theorem ancestors_of_mem_childElements (h : q ∈ p.childElements) : q.ancestors = p.line := by
  have hp := parent_of_mem_elementsFrom h
  cases q with
  | top => cases hp
  | under => exact congrArg line (Option.some.inj hp)

theorem line_suffix (h : q ∈ p.descendants) : p.line <:+ q.ancestors := by
  induction p using childInduction with
  | step p ih =>
    obtain ⟨c, hc, rfl | hq⟩ := mem_descendants_iff.mp h
    · rw [ancestors_of_mem_childElements hc]
    · rw [← ancestors_of_mem_childElements hc]
      exact (List.suffix_cons c c.ancestors).trans (ih c hc hq)

theorem not_mem_descendants (p : Place) : p ∉ p.descendants := by
  intro h
  have hlength := (line_suffix h).length_le
  exact absurd hlength (Nat.not_succ_le_self _)

theorem pairwise_elementsFrom (p : Place) (before ns : List Node) :
    (elementsFrom p before ns).Pairwise (fun q r => q.before.length < r.before.length) ∧
      ∀ q ∈ elementsFrom p before ns, before.length ≤ q.before.length := by
  induction ns generalizing before with
  | nil => exact ⟨.nil, by simp [elementsFrom]⟩
  | cons n r ih =>
    obtain ⟨hr, hle⟩ := ih (n :: before)
    rw [elementsFrom]
    split
    · refine ⟨List.pairwise_cons.mpr ⟨fun q hq => hle q hq, hr⟩, ?_⟩
      exact List.forall_mem_cons.mpr ⟨le_rfl, fun q hq => (Nat.le_succ _).trans (hle q hq)⟩
    · exact ⟨hr, fun q hq => (Nat.le_succ _).trans (hle q hq)⟩

theorem nodup_childElements (p : Place) : p.childElements.Nodup :=
  (pairwise_elementsFrom p [] p.node.children).1.imp fun h he => h.ne (by rw [he])

theorem eq_of_line_suffix {c c' : Place} (hc : c ∈ p.childElements) (hc' : c' ∈ p.childElements)
    (h : c.line <:+ q.line) (h' : c'.line <:+ q.line) : c = c' := by
  have hlength : c.line.length = c'.line.length := by
    simp only [line, List.length_cons, ancestors_of_mem_childElements hc,
      ancestors_of_mem_childElements hc']
  have hline := (List.suffix_of_suffix_length_le h h' hlength.le).eq_of_length hlength
  exact (List.cons.inj hline).1

theorem nodup_descendants (p : Place) : p.descendants.Nodup := by
  induction p using childInduction with
  | step p ih =>
    have hline {c q : Place} (hq : q ∈ c :: c.descendants) : c.line <:+ q.line := by
      rcases List.mem_cons.mp hq with rfl | hq
      · exact List.suffix_rfl
      · exact (line_suffix hq).trans (List.suffix_cons q q.ancestors)
    rw [descendants_eq, List.nodup_flatMap]
    refine ⟨fun c hc => List.nodup_cons.mpr ⟨not_mem_descendants c, ih c hc⟩, ?_⟩
    refine (nodup_childElements p).imp_of_mem fun {c c'} hc hc' hne q hq hq' => hne ?_
    exact eq_of_line_suffix hc hc' (hline hq) (hline hq')

theorem childElements_sublist (p : Place) : p.childElements.Sublist p.descendants := by
  rw [descendants_eq]
  induction p.childElements with
  | nil => exact .slnil
  | cons c r ih => exact .cons_cons c (ih.trans (List.sublist_append_right c.descendants _))

theorem descendants_sublist (h : q ∈ p.descendants) : q.descendants.Sublist p.descendants := by
  induction p using childInduction with
  | step p ih =>
    obtain ⟨c, hc, hq⟩ := mem_descendants_iff.mp h
    have hbelow : c.descendants.Sublist p.descendants := by
      rw [descendants_eq p, List.flatMap_def]
      exact (List.sublist_cons_self c c.descendants).trans
        (List.sublist_flatten_of_mem (List.mem_map_of_mem hc))
    rcases hq with rfl | hq
    · exact hbelow
    · exact (ih c hc hq).trans hbelow

end Place

open Place

variable {d : Document} {m : Place} {f : Place → Bool}

theorem Document.find?_places (hm : m ∈ d.places)
    (h : ∀ q ∈ d.places, f q = true → q.parent? = some m) :
    d.places.find? f = m.childElements.find? f := by
  refine find?_eq_of_sublist ((childElements_sublist m).trans (descendants_sublist hm))
    (nodup_descendants _) fun q hq hf => ?_
  have hparent := h q hq hf
  obtain ⟨ho, he, -⟩ := mem_places_iff.mp hq
  cases ho with
  | top => cases hparent
  | under hp hc =>
    obtain rfl := Option.some.inj hparent
    exact mem_childElements he hc

end CrateDocs.Markup
