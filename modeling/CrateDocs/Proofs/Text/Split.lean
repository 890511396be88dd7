import CrateDocs.Text.Blank
import CrateDocs.Text.Split

/-!
Where texts are cut. A cut at a character is found in front of a text without it, the first cut at a
separator after a text without its first character, and the last cut at a doubled character before a
text that neither has it nor begins with half of it.

Blanks at the end of a text: they are all that is trimmed there.
-/

namespace CrateDocs.Text

variable {d : Char}

theorem splitChar_eq_splitOn (d : Char) (s : List Char) : splitChar d s = s.splitOn d := by
  induction s with
  | nil => rfl
  | cons c r ih =>
    rw [splitChar, List.splitOn_cons_eq_if_modifyHead, ih]
    by_cases h : c = d
    · simp [h]
    · cases hs : r.splitOn d with
      | nil => exact absurd hs (List.splitOn_ne_nil d r)
      | cons p ps => simp [h]

theorem intercalate_splitChar (d : Char) (s : List Char) : [d].intercalate (splitChar d s) = s := by
  rw [splitChar_eq_splitOn, List.intercalate_splitOn]

theorem splitChar_intercalate {parts : List (List Char)} (hne : parts ≠ [])
    (h : ∀ p ∈ parts, d ∉ p) : splitChar d ([d].intercalate parts) = parts := by
  rw [splitChar_eq_splitOn, List.splitOn_intercalate d h hne]

theorem not_mem_of_mem_splitChar {s p : List Char} (hp : p ∈ splitChar d s) : d ∉ p := by
  induction s generalizing p with
  | nil =>
    obtain rfl := List.mem_singleton.mp hp
    exact List.not_mem_nil
  | cons c r ih =>
    rw [splitChar] at hp
    split at hp
    · rcases List.mem_cons.mp hp with rfl | hp
      · exact List.not_mem_nil
      · exact ih hp
    · next hc =>
      cases hs : splitChar d r with
      | nil => exact absurd hs (splitChar_ne_nil d r)
      | cons q qs =>
        rw [hs] at hp ih
        rcases List.mem_cons.mp hp with rfl | hp
        · have hq : d ∉ q := ih List.mem_cons_self
          simp [hq, Ne.symm hc]
        · exact ih (List.mem_cons_of_mem q hp)

theorem mem_intercalate {sep : List Char} {parts : List (List Char)} {c : Char}
    (hc : c ∈ sep.intercalate parts) : c ∈ sep ∨ ∃ p ∈ parts, c ∈ p := by
  induction parts with
  | nil => cases hc
  | cons p r ih =>
    cases r with
    | nil => exact .inr ⟨p, by simp, by simpa using hc⟩
    | cons q t =>
      rw [List.intercalate_cons_cons, List.append_assoc, List.mem_append, List.mem_append] at hc
      rcases hc with hc | hc | hc
      · exact .inr ⟨p, by simp, hc⟩
      · exact .inl hc
      · refine (ih hc).imp_right ?_
        rintro ⟨p', hp, hc'⟩
        exact ⟨p', .tail _ hp, hc'⟩

theorem mem_intercalate_of_mem {sep p : List Char} {parts : List (List Char)} {c : Char}
    (hp : p ∈ parts) (hc : c ∈ p) : c ∈ sep.intercalate parts := by
  induction parts with
  | nil => cases hp
  | cons q r ih =>
    cases r with
    | nil =>
      obtain rfl := List.mem_singleton.mp hp
      rwa [List.intercalate_singleton]
    | cons q' t =>
      rw [List.intercalate_cons_cons, List.append_assoc, List.mem_append, List.mem_append]
      rcases List.mem_cons.mp hp with rfl | hp
      · exact .inl hc
      · exact .inr (.inr (ih hp))

theorem cutChar_append {s : List Char} (h : d ∉ s) (t : List Char) :
    cutChar d (s ++ t) = (s ++ (cutChar d t).1, (cutChar d t).2) := by
  induction s with
  | nil => rfl
  | cons c r ih =>
    obtain ⟨hc, hr⟩ := List.ne_and_not_mem_of_not_mem_cons h
    rw [List.cons_append, cutChar, if_neg (Ne.symm hc), ih hr]
    rfl

theorem cutChar_of_not_mem {s : List Char} (h : d ∉ s) : cutChar d s = (s, none) := by
  simpa [cutChar] using cutChar_append h []

theorem cutChar_append_cons {s : List Char} (h : d ∉ s) (t : List Char) :
    cutChar d (s ++ d :: t) = (s, some t) := by
  rw [cutChar_append h]
  simp [cutChar]

theorem cutChar_cases (d : Char) (s : List Char) :
    (d ∉ s ∧ cutChar d s = (s, none)) ∨
      ∃ a b, d ∉ a ∧ s = a ++ d :: b ∧ cutChar d s = (a, some b) := by
  by_cases h : d ∈ s
  · obtain ⟨a, b, rfl, ha⟩ := List.eq_append_cons_of_mem h
    exact .inr ⟨a, b, ha, rfl, cutChar_append_cons ha b⟩
  · exact .inl ⟨h, cutChar_of_not_mem h⟩

theorem cutFirst_of_not_mem {sep s : List Char} (h : d ∉ s) : cutFirst (d :: sep) s = none := by
  induction s with
  | nil => rfl
  | cons c r ih =>
    obtain ⟨hc, hr⟩ := List.ne_and_not_mem_of_not_mem_cons h
    simp [cutFirst, ih hr, hc]

theorem cutFirst_append {sep a : List Char} (h : d ∉ a) (b : List Char) :
    cutFirst (d :: sep) (a ++ (d :: sep ++ b)) = some (a, b) := by
  induction a with
  | nil => simp [cutFirst]
  | cons c r ih =>
    obtain ⟨hc, hr⟩ := List.ne_and_not_mem_of_not_mem_cons h
    rw [List.cons_append, cutFirst, ih hr]
    simp [hc]

theorem splitOn_of_cutFirst {sep s a b : List Char} (h : cutFirst sep s = some (a, b)) :
    splitOn sep s = a :: splitOn sep b := by
  rw [splitOn]
  split
  · next hn => simp [h] at hn
  · next hs =>
    cases h.symm.trans hs
    rfl

theorem splitOn_of_cutFirst_eq_none {sep s : List Char} (h : cutFirst sep s = none) :
    splitOn sep s = [s] := by
  rw [splitOn]
  split
  · rfl
  · next hs => simp [h] at hs

theorem splitOn_intercalate {sep : List Char} {parts : List (List Char)} (hne : parts ≠ [])
    (h : ∀ p ∈ parts, d ∉ p) : splitOn (d :: sep) ((d :: sep).intercalate parts) = parts := by
  induction parts with
  | nil => exact absurd rfl hne
  | cons p r ih =>
    obtain ⟨hp, hr⟩ := List.forall_mem_cons.mp h
    cases r with
    | nil =>
      rw [List.intercalate_singleton]
      exact splitOn_of_cutFirst_eq_none (cutFirst_of_not_mem hp)
    | cons q t =>
      rw [List.intercalate_cons_cons, List.append_assoc,
        splitOn_of_cutFirst (cutFirst_append hp _), ih (by simp) hr]

theorem cutLast_of_not_mem {sep s : List Char} (h : d ∉ s) : cutLast (d :: sep) s = none := by
  induction s with
  | nil => rfl
  | cons c r ih =>
    obtain ⟨hc, hr⟩ := List.ne_and_not_mem_of_not_mem_cons h
    simp [cutLast, ih hr, hc]

theorem cutLast_eq_none_iff {sep s : List Char} (h : sep ≠ []) :
    cutLast sep s = none ↔ ¬sep <:+: s := by
  induction s with
  | nil => simpa [cutLast] using h
  | cons c r ih =>
    rw [cutLast, List.infix_cons_iff, not_or, ← ih, ← List.isPrefixOf_iff_prefix]
    cases cutLast sep r with
    | some p => simp
    | none => simp

theorem suffix_of_cutLast {sep s a b : List Char} (h : cutLast sep s = some (a, b)) : b <:+ s := by
  induction s generalizing a with
  | nil => cases h
  | cons c r ih =>
    rw [cutLast] at h
    split at h
    · next p hp =>
      cases h
      exact (ih hp).trans (List.suffix_cons c r)
    · split at h
      · cases h
        exact (List.drop_suffix _ r).trans (List.suffix_cons c r)
      · cases h

theorem cutLast_append_left {sep s a b : List Char} (h : cutLast sep s = some (a, b))
    (front : List Char) : cutLast sep (front ++ s) = some (front ++ a, b) := by
  induction front with
  | nil => exact h
  | cons c r ih =>
    rw [List.cons_append, cutLast, ih]
    rfl

/-- A doubled character between two texts is its last occurrence unless the second text has another
one, or begins with the character, so that an occurrence overlaps the one between the texts. -/
theorem cutLast_append_iff {a b : List Char} :
    cutLast [d, d] (a ++ d :: d :: b) = some (a, b) ↔ ¬[d, d] <:+: b ∧ ¬[d] <+: b := by
  have hwithin : [d, d] <:+: d :: b ↔ [d] <+: b ∨ [d, d] <:+: b := by
    rw [List.infix_cons_iff, List.cons_prefix_cons, and_iff_right rfl]
  rw [← not_or, or_comm, ← hwithin, ← cutLast_eq_none_iff (by simp)]
  constructor
  · intro h
    cases hcut : cutLast [d, d] (d :: b) with
    | none => rfl
    | some p =>
      obtain ⟨front, back⟩ := p
      have hlater := cutLast_append_left hcut (a ++ [d])
      rw [List.append_assoc, List.singleton_append, h] at hlater
      have hlength := congrArg List.length (Prod.mk.inj (Option.some.inj hlater)).1
      simp at hlength
  · intro h
    have hhere : cutLast [d, d] (d :: d :: b) = some ([], b) := by
      rw [cutLast, h]
      simp
    simpa using cutLast_append_left hhere a

theorem exists_trimEnd_append (s : List Char) :
    ∃ blanks, s = trimEnd s ++ blanks ∧ ∀ c ∈ blanks, isBlank c = true := by
  induction s with
  | nil => exact ⟨[], rfl, by simp⟩
  | cons c r ih =>
    obtain ⟨blanks, hr, hblanks⟩ := ih
    rw [trimEnd]
    split
    · next hnil =>
      have hall := trimEnd_eq_nil_iff.mp hnil
      split
      · next hc => exact ⟨c :: r, rfl, List.forall_mem_cons.mpr ⟨hc, hall⟩⟩
      · exact ⟨r, rfl, hall⟩
    · next d t ht =>
      rw [ht] at hr
      exact ⟨blanks, by rw [hr]; rfl, hblanks⟩

theorem isPrefix_trimEnd (s : List Char) : trimEnd s <+: s := by
  obtain ⟨blanks, hs, -⟩ := exists_trimEnd_append s
  exact ⟨blanks, hs.symm⟩

theorem trimEnd_append_blanks {s blanks : List Char} (h : ∀ c ∈ blanks, isBlank c = true) :
    trimEnd (s ++ blanks) = trimEnd s := by
  induction s with
  | nil => exact trimEnd_eq_nil_iff.mpr h
  | cons c r ih => rw [List.cons_append, trimEnd, ih, trimEnd]

theorem trimEnd_concat {s : List Char} {c : Char} (h : isBlank c = false) :
    trimEnd (s ++ [c]) = s ++ [c] := by
  induction s with
  | nil => simp [trimEnd, h]
  | cons d r ih =>
    rw [List.cons_append, trimEnd, ih]
    cases hr : r ++ [c] with
    | nil => simp at hr
    | cons e t => rfl

end CrateDocs.Text
