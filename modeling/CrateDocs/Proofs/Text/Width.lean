import CrateDocs.Text.Width
import Mathlib.Data.List.Chain

/-!
The width of a text and of the graphemes that it is read as. A text is no wider than its graphemes
are together, and so is each part of it that ends with a grapheme, as long as it does not start with
two joiners: there the first one is a grapheme by itself, and it joins the second one to nothing.
-/

namespace CrateDocs.Text

variable {last : Option Char} {c : Char} {s t : List Char}

theorem widthFrom_joiner (last : Option Char) (s : List Char) :
    widthFrom last (joiner :: s) = widthFrom last s.tail := by
  cases s <;> simp [widthFrom]

example : width ['a', joiner, 'b', 'c'] = 2 := by cbv

theorem widthFrom_selector (last : Option Char) (s : List Char) :
    widthFrom last (selector :: s) = (if isWidened last then 1 else 0) + widthFrom none s := by
  rw [widthFrom.eq_def]
  exact (if_neg (by decide)).trans (if_pos rfl)

theorem widthFrom_combining (hj : c ≠ joiner) (hs : c ≠ selector) (hc : charWidth c = 0) :
    widthFrom last (c :: s) = widthFrom last s := by
  rw [widthFrom.eq_def]
  exact (if_neg hj).trans ((if_neg hs).trans (if_pos hc))

theorem widthFrom_shown (hj : c ≠ joiner) (hs : c ≠ selector) (hc : charWidth c ≠ 0) :
    widthFrom last (c :: s) = charWidth c + widthFrom (some c) s := by
  rw [widthFrom.eq_def]
  exact (if_neg hj).trans ((if_neg hs).trans (if_neg hc))

theorem widthFrom_le {a b : Option Char} (h : isWidened a = true → isWidened b = true)
    (s : List Char) : widthFrom a s ≤ widthFrom b s := by
  induction a, s using widthFrom.induct generalizing b with
  | case1 a => simp [widthFrom]
  | case2 a => simp [widthFrom]
  | case3 a d t ih =>
    rw [widthFrom_joiner, widthFrom_joiner]
    exact ih h
  | case4 a t _ ih =>
    rw [widthFrom_selector, widthFrom_selector]
    have hone : (if isWidened a = true then 1 else 0) ≤ if isWidened b = true then 1 else 0 := by
      split
      · next ha => rw [if_pos (h ha)]
      · omega
    omega
  | case5 a d t hj hs hd ih =>
    rw [widthFrom_combining hj hs hd, widthFrom_combining hj hs hd]
    exact ih h
  | case6 a d t hj hs hd ih => rw [widthFrom_shown hj hs hd, widthFrom_shown hj hs hd]

theorem widthFrom_none_le (last : Option Char) (s : List Char) :
    widthFrom none s ≤ widthFrom last s :=
  widthFrom_le (by simp [isWidened]) s

theorem widthFrom_le_append (last : Option Char) (s t : List Char) :
    widthFrom last s ≤ widthFrom last (s ++ t) := by
  induction last, s using widthFrom.induct with
  | case1 a => simp [widthFrom]
  | case2 a => simp [widthFrom_joiner, widthFrom]
  | case3 a d r ih =>
    rw [List.cons_append, List.cons_append, widthFrom_joiner, widthFrom_joiner]
    exact ih
  | case4 a r _ ih =>
    rw [List.cons_append, widthFrom_selector, widthFrom_selector]
    omega
  | case5 a d r hj hs hd ih =>
    rw [List.cons_append, widthFrom_combining hj hs hd, widthFrom_combining hj hs hd]
    exact ih
  | case6 a d r hj hs hd ih =>
    rw [List.cons_append, widthFrom_shown hj hs hd, widthFrom_shown hj hs hd]
    omega

theorem width_le_of_prefix (h : s <+: t) : width s ≤ width t := by
  obtain ⟨r, rfl⟩ := h
  exact widthFrom_le_append none s r

theorem widthFrom_space (last : Option Char) (s : List Char) :
    widthFrom last (' ' :: s) = 1 + widthFrom none s := by
  have hspace : charWidth ' ' = 1 := by decide
  rw [widthFrom_shown (by decide) (by decide) (by omega), hspace]
  have hle : widthFrom (some ' ') s ≤ widthFrom none s := widthFrom_le (by decide) s
  have hge := widthFrom_none_le (some ' ') s
  omega

theorem width_spaces_append (n : Nat) (s : List Char) :
    width (List.replicate n ' ' ++ s) = n + width s := by
  induction n with
  | zero => simp
  | succ n ih =>
    rw [List.replicate_succ, List.cons_append, width, widthFrom_space]
    rw [width] at ih
    omega

theorem widthFrom_concat_space_le (last : Option Char) (s : List Char) :
    widthFrom last (s ++ [' ']) ≤ widthFrom last s + 1 := by
  induction last, s using widthFrom.induct with
  | case1 a => simp [widthFrom_space, widthFrom]
  | case2 a => simp [widthFrom_joiner, widthFrom]
  | case3 a d r ih =>
    rw [List.cons_append, List.cons_append, widthFrom_joiner, widthFrom_joiner]
    exact ih
  | case4 a r _ ih =>
    rw [List.cons_append, widthFrom_selector, widthFrom_selector]
    omega
  | case5 a d r hj hs hd ih =>
    rw [List.cons_append, widthFrom_combining hj hs hd, widthFrom_combining hj hs hd]
    exact ih
  | case6 a d r hj hs hd ih =>
    rw [List.cons_append, widthFrom_shown hj hs hd, widthFrom_shown hj hs hd]
    omega

section Graphemes

variable (g : Grapheme) (gs : List Grapheme)

theorem graphemesFrom_joiner (last : Option Char) (d : Char) (s : List Char) :
    graphemesFrom (g :: gs) last (joiner :: d :: s) =
      graphemesFrom (⟨d :: joiner :: g.chars, g.width⟩ :: gs) last s := by
  rw [graphemesFrom.eq_def]
  exact if_pos rfl

example : (graphemes ['a', joiner, 'b', 'c']).map Grapheme.width = [1, 1] := by cbv

theorem graphemesFrom_final_joiner (last : Option Char) :
    graphemesFrom (g :: gs) last [joiner] =
      graphemesFrom (⟨joiner :: g.chars, g.width⟩ :: gs) last [] := by
  rw [graphemesFrom.eq_def]
  exact if_pos rfl

theorem graphemesFrom_selector (last : Option Char) (s : List Char) :
    graphemesFrom (g :: gs) last (selector :: s) =
      if isWidened last then graphemesFrom (⟨selector :: g.chars, g.width + 1⟩ :: gs) none s
      else graphemesFrom (⟨selector :: g.chars, g.width⟩ :: gs) last s := by
  rw [graphemesFrom.eq_def]
  exact (if_neg (by decide)).trans (if_pos rfl)

theorem graphemesFrom_combining (last : Option Char) (s : List Char) (hj : c ≠ joiner)
    (hs : c ≠ selector) (hc : charWidth c = 0) :
    graphemesFrom (g :: gs) last (c :: s) =
      graphemesFrom (⟨c :: g.chars, g.width⟩ :: gs) last s := by
  rw [graphemesFrom.eq_def]
  exact (if_neg hj).trans ((if_neg hs).trans (if_pos hc))

theorem graphemesFrom_shown (last : Option Char) (s : List Char) (hj : c ≠ joiner)
    (hs : c ≠ selector) (hc : charWidth c ≠ 0) :
    graphemesFrom (g :: gs) last (c :: s) =
      graphemesFrom (⟨[c], charWidth c⟩ :: g :: gs) (some c) s := by
  rw [graphemesFrom.eq_def]
  exact (if_neg hj).trans ((if_neg hs).trans (if_neg hc))

end Graphemes

def completed (done : List Grapheme) : List Grapheme :=
  (done.map fun g => ⟨g.chars.reverse, g.width⟩).reverse

theorem completed_cons (g : Grapheme) (gs : List Grapheme) :
    completed (g :: gs) = completed gs ++ [⟨g.chars.reverse, g.width⟩] := by
  simp [completed]

theorem graphemesFrom_of_head? (done : List Grapheme) (last : Option Char) (s : List Char)
    (g : Grapheme) (hg : done.head? = some g) (gs : List Grapheme) :
    graphemesFrom (g :: gs) last s = completed gs ++ graphemesFrom [g] last s := by
  -- Reading goes on from the last grapheme alone, so that those before it may be given later. The
  -- cases are those of the reading; the first ones have no grapheme to go on from.
  induction done, last, s using graphemesFrom.induct generalizing g gs with
  | case1 done last =>
    rw [graphemesFrom, graphemesFrom]
    exact completed_cons g gs
  | case2 | case3 | case4 =>
    cases hg
  | case5 last g gs ih =>
    cases hg
    rw [graphemesFrom_final_joiner, graphemesFrom_final_joiner]
    exact ih _ rfl gs
  | case6 last g gs d t ih =>
    cases hg
    rw [graphemesFrom_joiner, graphemesFrom_joiner]
    exact ih _ rfl gs
  | case7 last t g gs hw _ ih =>
    cases hg
    rw [graphemesFrom_selector, graphemesFrom_selector, if_pos hw, if_pos hw]
    exact ih _ rfl gs
  | case8 last t g gs hw _ ih =>
    cases hg
    rw [graphemesFrom_selector, graphemesFrom_selector, if_neg hw, if_neg hw]
    exact ih _ rfl gs
  | case9 last d t g gs hj hs hd ih =>
    cases hg
    rw [graphemesFrom_combining _ _ _ _ hj hs hd, graphemesFrom_combining _ _ _ _ hj hs hd]
    exact ih _ rfl gs
  | case10 last d t g gs hj hs hd ih =>
    cases hg
    have hnew := ih _ rfl
    rw [graphemesFrom_shown _ _ _ _ hj hs hd, graphemesFrom_shown _ _ _ _ hj hs hd, hnew,
      hnew [g], completed_cons, List.append_assoc]
    rfl

theorem graphemesFrom_cons (g : Grapheme) (gs : List Grapheme) (last : Option Char)
    (s : List Char) :
    graphemesFrom (g :: gs) last s = completed gs ++ graphemesFrom [g] last s :=
  graphemesFrom_of_head? [g] last s g rfl gs

def textOf (gs : List Grapheme) : List Char := gs.flatMap Grapheme.chars

def cellsOf : List Grapheme → Nat
  | [] => 0
  | g :: r => g.width + cellsOf r

theorem textOf_cons (g : Grapheme) (gs : List Grapheme) : textOf (g :: gs) = g.chars ++ textOf gs :=
  List.flatMap_cons

/-- Some of the graphemes of a text, from the first one on, are those of a part of the text that is
no wider than they are together. The first one has been read in part. -/
theorem exists_of_prefix_graphemesFrom (done : List Grapheme) (last : Option Char) (s : List Char)
    (g : Grapheme) (hg : done.head? = some g) {gs : List Grapheme}
    (hgs : gs <+: graphemesFrom [g] last s) (hne : gs ≠ []) :
    ∃ t, t <+: s ∧ textOf gs = g.chars.reverse ++ t ∧ g.width + widthFrom last t ≤ cellsOf gs := by
  induction done, last, s using graphemesFrom.induct generalizing g gs with
  | case1 done last =>
    rw [graphemesFrom] at hgs
    obtain rfl | ⟨gs, rfl, hnil⟩ := List.prefix_cons_iff.mp hgs
    · exact absurd rfl hne
    · rw [List.prefix_nil] at hnil
      subst hnil
      exact ⟨[], List.prefix_rfl, by simp [textOf], by simp [cellsOf, widthFrom]⟩
  | case2 | case3 | case4 =>
    cases hg
  | case5 last g _ ih =>
    cases hg
    rw [graphemesFrom_final_joiner] at hgs
    obtain ⟨t, ht, htext, hcells⟩ := ih _ rfl hgs hne
    rw [List.prefix_nil] at ht
    subst ht
    refine ⟨[joiner], List.prefix_rfl, by simpa using htext, ?_⟩
    rw [widthFrom_joiner]
    exact hcells
  | case6 last g _ d r ih =>
    cases hg
    rw [graphemesFrom_joiner] at hgs
    obtain ⟨t, ht, htext, hcells⟩ := ih _ rfl hgs hne
    refine ⟨joiner :: d :: t, by simpa using ht, by simpa using htext, ?_⟩
    rw [widthFrom_joiner]
    exact hcells
  | case7 last r g _ hw _ ih =>
    cases hg
    rw [graphemesFrom_selector, if_pos hw] at hgs
    obtain ⟨t, ht, htext, hcells⟩ := ih _ rfl hgs hne
    refine ⟨selector :: t, by simpa using ht, by simpa using htext, ?_⟩
    rw [widthFrom_selector, if_pos hw, ← Nat.add_assoc]
    exact hcells
  | case8 last r g _ hw _ ih =>
    cases hg
    rw [graphemesFrom_selector, if_neg hw] at hgs
    obtain ⟨t, ht, htext, hcells⟩ := ih _ rfl hgs hne
    refine ⟨selector :: t, by simpa using ht, by simpa using htext, ?_⟩
    have hle := widthFrom_none_le last t
    -- A selector that widens nothing is forgotten, so that what follows may only get narrower.
    rw [widthFrom_selector, if_neg hw]
    dsimp only at hcells
    omega
  | case9 last d r g _ hj hs hd ih =>
    cases hg
    rw [graphemesFrom_combining _ _ _ _ hj hs hd] at hgs
    obtain ⟨t, ht, htext, hcells⟩ := ih _ rfl hgs hne
    refine ⟨d :: t, by simpa using ht, by simpa using htext, ?_⟩
    rw [widthFrom_combining hj hs hd]
    exact hcells
  | case10 last d r g _ hj hs hd ih =>
    cases hg
    have hfirst : completed [g] = [⟨g.chars.reverse, g.width⟩] := rfl
    rw [graphemesFrom_shown _ _ _ _ hj hs hd, graphemesFrom_cons, hfirst,
      List.singleton_append] at hgs
    obtain rfl | ⟨gs, rfl, hrest⟩ := List.prefix_cons_iff.mp hgs
    · exact absurd rfl hne
    -- The first grapheme is complete here. If it is the only one, nothing more of the text is
    -- needed.
    by_cases hnil : gs = []
    · subst hnil
      exact ⟨[], List.nil_prefix, by simp [textOf], by simp [cellsOf, widthFrom]⟩
    · obtain ⟨t, ht, htext, hcells⟩ := ih _ rfl hrest hnil
      refine ⟨d :: t, by simpa using ht, ?_, ?_⟩
      · rw [textOf_cons, htext]
        rfl
      · rw [widthFrom_shown hj hs hd, cellsOf]
        dsimp only at hcells ⊢
        omega

theorem widthFrom_tail_le (h : s.head? ≠ some joiner) :
    widthFrom none s.tail ≤ widthFrom none s := by
  cases s with
  | nil => exact le_rfl
  | cons c r =>
    have hj : c ≠ joiner := by simpa using h
    rw [List.tail_cons]
    by_cases hs : c = selector
    · subst hs
      rw [widthFrom_selector]
      omega
    · by_cases hc : charWidth c = 0
      · rw [widthFrom_combining hj hs hc]
      · have hle := widthFrom_none_le (some c) r
        rw [widthFrom_shown hj hs hc]
        omega

theorem graphemes_cons (c : Char) (s : List Char) :
    ∃ n last, graphemes (c :: s) = graphemesFrom [⟨[c], n⟩] last s ∧
      ∀ t, (c = joiner → t.head? ≠ some joiner) → width (c :: t) ≤ n + widthFrom last t := by
  by_cases hj : c = joiner
  · refine ⟨0, none, by rw [graphemes, graphemesFrom, if_pos (.inl hj)], ?_⟩
    intro t ht
    subst hj
    rw [width, widthFrom_joiner, Nat.zero_add]
    exact widthFrom_tail_le (ht rfl)
  by_cases hs : c = selector
  · refine ⟨0, none, by rw [graphemes, graphemesFrom, if_pos (.inr hs)], ?_⟩
    intro t _
    subst hs
    rw [width, widthFrom_selector, if_neg (by decide)]
  have hor : ¬(c = joiner ∨ c = selector) := by simp [hj, hs]
  by_cases hc : charWidth c = 0
  · refine ⟨0, none, by rw [graphemes, graphemesFrom, if_neg hor, if_pos hc], ?_⟩
    intro t _
    rw [width, widthFrom_combining hj hs hc, Nat.zero_add]
  · refine ⟨charWidth c, some c, by rw [graphemes, graphemesFrom, if_neg hor, if_neg hc], ?_⟩
    intro t _
    rw [width, widthFrom_shown hj hs hc]

theorem prefix_of_graphemes {gs : List Grapheme} (hs : ¬[joiner, joiner] <+: s)
    (hgs : gs <+: graphemes s) : textOf gs <+: s ∧ width (textOf gs) ≤ cellsOf gs := by
  by_cases hne : gs = []
  · subst hne
    exact ⟨List.nil_prefix, Nat.zero_le _⟩
  cases s with
  | nil =>
    rw [graphemes, graphemesFrom] at hgs
    exact absurd (List.prefix_nil.mp hgs) hne
  | cons c r =>
    obtain ⟨n, last, hread, hwidth⟩ := graphemes_cons c r
    rw [hread] at hgs
    obtain ⟨t, ht, htext, hcells⟩ :=
      exists_of_prefix_graphemesFrom [⟨[c], n⟩] last r ⟨[c], n⟩ rfl hgs hne
    have hhead : c = joiner → t.head? ≠ some joiner := by
      rintro rfl hjoined
      obtain ⟨u, rfl⟩ := List.head?_eq_some_iff.mp hjoined
      exact hs ((List.prefix_append [joiner, joiner] u).trans (List.prefix_cons_inj _ |>.mpr ht))
    rw [htext]
    exact ⟨by simpa using ht, (hwidth t hhead).trans hcells⟩

theorem exists_of_fitting (cells : Nat) (gs : List Grapheme) :
    ∃ hs, hs <+: gs ∧ (textOf hs).length = (fitting cells gs).1 ∧
      cellsOf hs + (if (fitting cells gs).2 then 1 else 0) ≤ cells := by
  induction gs generalizing cells with
  | nil => exact ⟨[], List.prefix_rfl, rfl, by simp [fitting, cellsOf]⟩
  | cons g r ih =>
    rw [fitting]
    by_cases hfull : cells = 0
    · rw [if_pos hfull]
      exact ⟨[], List.nil_prefix, rfl, by simp [cellsOf]⟩
    · by_cases hcut : cells < g.width
      · rw [if_neg hfull, if_pos hcut]
        exact ⟨[], List.nil_prefix, rfl, by simp [cellsOf]; omega⟩
      · rw [if_neg hfull, if_neg hcut]
        obtain ⟨hs, hstart, hlength, hcells⟩ := ih (cells - g.width)
        refine ⟨g :: hs, by simpa using hstart, ?_, ?_⟩
        · rw [textOf_cons, List.length_append, hlength]
        · rw [cellsOf]
          dsimp only
          omega

theorem width_take_fitting_le (cells : Nat) (hs : ¬[joiner, joiner] <+: s) :
    width (s.take (fitting cells (graphemes s)).1) +
      (if (fitting cells (graphemes s)).2 then 1 else 0) ≤ cells := by
  obtain ⟨gs, hstart, hlength, hcells⟩ := exists_of_fitting cells (graphemes s)
  obtain ⟨htext, hwidth⟩ := prefix_of_graphemes hs hstart
  rw [← hlength, ← List.prefix_iff_eq_take.mp htext]
  omega

end CrateDocs.Text
