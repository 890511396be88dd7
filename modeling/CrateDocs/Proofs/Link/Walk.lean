import CrateDocs.Link.Resolve
import CrateDocs.Proofs.Item.Anchor
import CrateDocs.Proofs.Item.Name
import CrateDocs.Proofs.Link.Scheme
import Mathlib.Data.List.Induction

/-!
Walks along the path of a link. A path of parts that count is taken part by part, and while it goes
up and down over directories the walk is in the directory that their segments name.
-/

namespace CrateDocs.Link

/-- Characters that neither end a part of a path nor a path, and do not make a scheme of it. -/
def IsPlainChar (c : Char) : Prop := c ≠ '/' ∧ c ≠ '#' ∧ c ≠ ':' ∧ 0x20 ≤ c.toNat

instance (c : Char) : Decidable (IsPlainChar c) :=
  inferInstanceAs (Decidable (c ≠ '/' ∧ c ≠ '#' ∧ c ≠ ':' ∧ 0x20 ≤ c.toNat))

def IsPlainText (s : List Char) : Prop := ∀ c ∈ s, IsPlainChar c

instance (s : List Char) : Decidable (IsPlainText s) := List.decidableBAll IsPlainChar s

structure IsPart (p : List Char) : Prop where
  ne_nil : p ≠ []
  ne_here : p ≠ ['.']
  plain : IsPlainText p

instance (p : List Char) : Decidable (IsPart p) :=
  decidable_of_iff (p ≠ [] ∧ p ≠ ['.'] ∧ IsPlainText p)
    ⟨fun h => ⟨h.1, h.2.1, h.2.2⟩, fun h => ⟨h.ne_nil, h.ne_here, h.plain⟩⟩

/-- Segments of names that are directories of their own. -/
structure IsSegment (s : String) : Prop extends IsPart s.toList where
  ne_up : s ≠ ".."
  not_page : ¬Cursor.htmlSuffix <:+ s.toList

instance (s : String) : Decidable (IsSegment s) :=
  decidable_of_iff (IsPart s.toList ∧ s ≠ ".." ∧ ¬Cursor.htmlSuffix <:+ s.toList)
    ⟨fun h => ⟨h.1, h.2.1, h.2.2⟩, fun h => ⟨h.toIsPart, h.ne_up, h.not_page⟩⟩

theorem IsPlainText.append {s t : List Char} (hs : IsPlainText s) (ht : IsPlainText t) :
    IsPlainText (s ++ t) := by
  intro c hc
  rcases List.mem_append.mp hc with h | h
  · exact hs c h
  · exact ht c h

theorem isPlainText_token (k : Kind) : IsPlainText k.token.toList := by cases k <;> decide

theorem IsPart.not_mem_slash {p : List Char} (h : IsPart p) : '/' ∉ p :=
  fun hc => (h.plain _ hc).1 rfl

theorem IsPart.not_mem_colon {p : List Char} (h : IsPart p) : ':' ∉ p :=
  fun hc => (h.plain _ hc).2.2.1 rfl

theorem isPart_of_length {p : List Char} (hl : 1 < p.length) (hc : IsPlainText p) : IsPart p := by
  refine ⟨?_, ?_, hc⟩
  · rintro rfl
    exact absurd hl (by decide)
  · rintro rfl
    exact absurd hl (by decide)

theorem isPart_up : IsPart "..".toList := by decide

section Path

variable {parts : List (List Char)}

theorem splitChar_path (hp : ∀ p ∈ parts, IsPart p) (hne : parts ≠ []) :
    Text.splitChar '/' (['/'].intercalate parts) = parts :=
  Text.splitChar_intercalate hne fun p h => (hp p h).not_mem_slash

theorem steps_path (hp : ∀ p ∈ parts, IsPart p) (hne : parts ≠ []) :
    steps (['/'].intercalate parts) = parts := by
  rw [steps, splitChar_path hp hne, List.filter_eq_self]
  intro p h
  simp [(hp p h).ne_nil, (hp p h).ne_here]

theorem chars_path (hp : ∀ p ∈ parts, IsPart p) {c : Char} (hc : c ∈ ['/'].intercalate parts) :
    c ≠ '#' ∧ c ≠ ':' ∧ 0x20 ≤ c.toNat := by
  rcases Text.mem_intercalate hc with h | ⟨p, h, hcp⟩
  · obtain rfl := List.mem_singleton.mp h
    decide
  · exact ((hp p h).plain c hcp).2

theorem not_infix_path (hp : ∀ p ∈ parts, IsPart p) (hne : parts ≠ []) :
    ¬['/', '/'] <:+: ['/'].intercalate parts := by
  rintro ⟨a, b, h⟩
  have hsplit := splitChar_path hp hne
  rw [← h, Text.splitChar_eq_splitOn, List.append_assoc, List.cons_append, List.singleton_append,
    List.splitOn_append_cons_self, List.splitOn_cons_eq_if_modifyHead] at hsplit
  have hnil : [] ∈ parts := by simp [← hsplit]
  exact (hp [] hnil).ne_nil rfl

theorem hasScheme?_path (hp : ∀ p ∈ parts, IsPart p) (hne : parts ≠ []) {rest : List Char}
    (hrest : IsAfterPath rest) : hasScheme? (['/'].intercalate parts ++ rest) = some false :=
  hasScheme?_of_path (fun _ hc => (chars_path hp hc).2) (not_infix_path hp hne) hrest

variable {name : Name} {kind : Kind} {there : Cursor} {n : Name}

theorem resolve_path {link : String} (hp : ∀ p ∈ parts, IsPart p) (hne : parts ≠ [])
    (hlink : link.toList = ['/'].intercalate parts)
    (hwalk : parts.foldlM Cursor.step (start name kind parts) = .ok there)
    (hn : there.name = some n) : resolve name kind link = .ok (.item there.kind n) := by
  have hscheme := hasScheme?_path hp hne (.inl rfl)
  have hcut := Text.cutChar_of_not_mem fun hc => (chars_path hp hc).1 rfl
  rw [List.append_nil] at hscheme
  simp [resolve, hlink, hscheme, follow, hcut, steps_path hp hne, hwalk, hn, Bind.bind, Except.bind]

theorem resolve_path_anchor {link : String} (hp : ∀ p ∈ parts, IsPart p) (hne : parts ≠ [])
    {k : Kind} {member : String} (hm : Anchor.IsName member)
    (hlink : link.toList = ['/'].intercalate parts ++ '#' :: (Anchor.text k member).toList)
    (hwalk : parts.foldlM Cursor.step (start name kind parts) = .ok there)
    (hn : there.name = some n) :
    resolve name kind link = .ok (.item (some k) (n.child member)) := by
  have hscheme := hasScheme?_path hp hne (.inr ⟨(Anchor.text k member).toList, rfl⟩)
  have hcut := Text.cutChar_append_cons (fun hc => (chars_path hp hc).1 rfl)
    (Anchor.text k member).toList
  simp [resolve, hlink, hscheme, follow, hcut, steps_path hp hne, hwalk, hn, Cursor.anchor?,
    Cursor.child, Anchor.read_text k hm, Bind.bind, Except.bind]

end Path

namespace Cursor

variable {c : Cursor} {directory : List String} {s : String}

structure IsIn (c : Cursor) (directory : List String) : Prop where
  name : c.name = Name.ofSegments? directory
  kind : c.kind = some .module ∨ c.kind = none

theorem child_name (h : c.name = Name.ofSegments? directory) (k : Option Kind) :
    (c.child k s).name = Name.ofSegments? (directory ++ [s]) := by
  cases directory with
  | nil =>
    have hn : c.name = none := h
    simp [child, hn, Name.ofSegments?, Name.ofSegments]
  | cons d r =>
    have hn : c.name = some (Name.ofSegments (d :: r)) := h
    simp only [child, hn, ← Name.ofSegments_append (List.cons_ne_nil d r)]
    rfl

theorem step_up (h : c.IsIn (directory ++ [s])) (hs : ':' ∉ s.toList) :
    ∃ c', c.step "..".toList = .ok c' ∧ c'.IsIn directory := by
  have hn : c.name = some (Name.ofSegments (directory ++ [s])) := by
    rw [h.name, Name.ofSegments?_eq_some (by simp)]
  refine ⟨⟨none, Name.ofSegments? directory⟩, ?_, rfl, .inr rfl⟩
  rw [step, if_pos rfl, up, hn]
  simp only [Name.parent?_ofSegments hs]

theorem step_segment (hs : IsSegment s) : c.step s.toList = .ok (c.child (some .module) s) := by
  have hup : s.toList ≠ "..".toList := fun h => hs.ne_up (String.toList_inj.mp h)
  have hindex : s.toList ≠ "index.html".toList := by
    intro h
    have hsuffix : htmlSuffix <:+ "index.html".toList := by decide
    rw [← h] at hsuffix
    exact hs.not_page hsuffix
  have hpage : ¬htmlSuffix.isSuffixOf s.toList = true :=
    fun h => hs.not_page (List.isSuffixOf_iff_suffix.mp h)
  rw [step, if_neg hup, if_neg hindex, if_neg hpage, String.ofList_toList]

theorem step_down (h : c.IsIn directory) (hs : IsSegment s) :
    ∃ c', c.step s.toList = .ok c' ∧ c'.IsIn (directory ++ [s]) :=
  ⟨_, step_segment hs, child_name h.name _, .inl rfl⟩

theorem step_index (c : Cursor) : c.step "index.html".toList = .ok c := by
  rw [step, if_neg (by decide), if_pos rfl]

theorem step_page {k : Kind} (hs : Anchor.IsName s) :
    c.step (Anchor.text k s ++ ".html").toList = .ok (c.child (some k) s) := by
  have hfile : (Anchor.text k s ++ ".html").toList = (Anchor.text k s).toList ++ htmlSuffix :=
    String.toList_append
  have hup : (Anchor.text k s).toList ++ htmlSuffix ≠ "..".toList := by
    intro h
    have hsuffix : htmlSuffix <:+ "..".toList := ⟨_, h⟩
    exact absurd hsuffix (by decide)
  have hindex : (Anchor.text k s).toList ++ htmlSuffix ≠ "index.html".toList := by
    intro h
    have hstem : (Anchor.text k s).toList = "index".toList := List.append_cancel_right h
    have hdot : '.' ∈ (Anchor.text k s).toList := by
      rw [Anchor.text, String.toList_append, String.toList_append]
      exact List.mem_append_left _ (List.mem_append_right _ (by decide))
    rw [hstem] at hdot
    exact absurd hdot (by decide)
  have hpage : htmlSuffix.isSuffixOf ((Anchor.text k s).toList ++ htmlSuffix) = true :=
    List.isSuffixOf_iff_suffix.mpr (List.suffix_append _ _)
  rw [hfile, step, if_neg hup, if_neg hindex, if_pos hpage]
  simp only [List.length_append, Nat.add_sub_cancel, List.take_left, anchor?,
    Anchor.read_text k hs]
  rfl

theorem walk_up {back : List String} (h : c.IsIn (directory ++ back))
    (hs : ∀ s ∈ back, ':' ∉ s.toList) :
    ∃ c', (List.replicate back.length "..".toList).foldlM step c = .ok c' ∧ c'.IsIn directory := by
  induction back using List.reverseRecOn generalizing c with
  | nil => exact ⟨c, rfl, by simpa using h⟩
  | append_singleton back s ih =>
    rw [← List.append_assoc] at h
    obtain ⟨c₁, hstep, h₁⟩ := step_up h (hs s (by simp))
    obtain ⟨c₂, hwalk, h₂⟩ := ih h₁ fun t ht => hs t (by simp [ht])
    refine ⟨c₂, ?_, h₂⟩
    rw [List.length_append, List.length_singleton, List.replicate_succ, List.foldlM_cons, hstep]
    exact hwalk

theorem walk_down {on : List String} (h : c.IsIn directory) (hs : ∀ s ∈ on, IsSegment s) :
    ∃ c', (on.map String.toList).foldlM step c = .ok c' ∧ c'.IsIn (directory ++ on) := by
  induction on generalizing c directory with
  | nil => exact ⟨c, rfl, by simpa using h⟩
  | cons s r ih =>
    obtain ⟨c₁, hstep, h₁⟩ := step_down h (hs s (by simp))
    obtain ⟨c₂, hwalk, h₂⟩ := ih h₁ fun t ht => hs t (by simp [ht])
    refine ⟨c₂, ?_, by simpa using h₂⟩
    rw [List.map_cons, List.foldlM_cons, hstep]
    exact hwalk

end Cursor

end CrateDocs.Link
