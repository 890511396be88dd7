import CrateDocs.Proofs.Text.Width
import CrateDocs.View.Wrap
import Mathlib.Data.List.SplitBy

/-!
The lines of wrapped text. They consist of glyphs of the text and of spaces, none of them has a line
feed, and they fit into the width as long as the text has no two joiners in a row.
-/

namespace CrateDocs.View

/-- Properties of glyphs that a space has, and that a glyph keeps when it becomes a space or when its
run gets another number. -/
structure IsStable (P : Glyph → Prop) : Prop where
  space : P ⟨' ', 0⟩
  blank {g : Glyph} : P g → P { g with char := ' ' }
  moved {g : Glyph} (n : Nat) : P g → P { g with run := if g.run = 0 then 0 else n }

theorem isStable_char {Q : Char → Prop} (h : Q ' ') : IsStable fun g => Q g.char :=
  ⟨h, fun _ => h, fun _ hg => hg⟩

theorem isStable_run : IsStable fun g => g.run = 0 :=
  ⟨rfl, fun hg => hg, fun _ hg => by simp [hg]⟩

variable {P : Glyph → Prop} {cells : Nat} {gs l : List Glyph}

theorem splitLines_ne_nil (gs : List Glyph) : splitLines gs ≠ [] := by
  cases gs with
  | nil => simp [splitLines]
  | cons g r =>
    rw [splitLines]
    split
    · simp
    · split <;> simp

theorem splitLines_cons {g : Glyph} (h : g.char ≠ '\n') (r : List Glyph) :
    ∃ k ks, splitLines r = k :: ks ∧ splitLines (g :: r) = (g :: k) :: ks := by
  obtain ⟨k, ks, hr⟩ := List.exists_cons_of_ne_nil (splitLines_ne_nil r)
  exact ⟨k, ks, hr, by rw [splitLines, if_neg h, hr]⟩

theorem splitLines_spec (gs : List Glyph) :
    (∀ l ∈ (splitLines gs).head?, l <+: gs) ∧
      ∀ l ∈ splitLines gs, l <:+: gs ∧ ∀ g ∈ l, g.char ≠ '\n' := by
  induction gs with
  | nil => simp [splitLines]
  | cons g r ih =>
    by_cases hg : g.char = '\n'
    · rw [splitLines, if_pos hg]
      refine ⟨by simp, ?_⟩
      intro l hl
      rcases List.mem_cons.mp hl with rfl | hl
      · exact ⟨List.nil_infix, by simp⟩
      · exact ⟨(ih.2 l hl).1.trans (List.suffix_cons g r).isInfix, (ih.2 l hl).2⟩
    · obtain ⟨k, ks, hr, hgr⟩ := splitLines_cons hg r
      rw [hr] at ih
      rw [hgr]
      have hk : g :: k <+: g :: r := (List.prefix_cons_inj g).mpr (ih.1 k rfl)
      refine ⟨by simpa using hk, ?_⟩
      intro l hl
      rcases List.mem_cons.mp hl with rfl | hl
      · exact ⟨hk.isInfix, List.forall_mem_cons.mpr ⟨hg, (ih.2 k (by simp)).2⟩⟩
      · obtain ⟨hpart, hends⟩ := ih.2 l (.tail k hl)
        exact ⟨hpart.trans (List.suffix_cons g r).isInfix, hends⟩

theorem infix_of_mem_cutAt {start : Nat} {ns : List Nat} (h : l ∈ cutAt start ns gs) :
    l <:+: gs := by
  induction ns generalizing start gs with
  | nil => exact List.mem_singleton.mp h ▸ List.infix_rfl
  | cons n r ih =>
    rw [cutAt] at h
    rcases List.mem_cons.mp h with rfl | h
    · exact (List.take_prefix _ gs).isInfix
    · exact (ih h).trans (List.drop_suffix _ gs).isInfix

theorem flatten_tabParts (gs : List Glyph) : (tabParts gs).flatten = gs := by
  induction gs with
  | nil => rfl
  | cons g r ih =>
    rw [tabParts]
    split
    · simp [ih]
    · next p ps hp _ =>
      rw [hp] at ih
      simpa using ih
    · next hp _ =>
      rw [hp] at ih
      simpa using ih

theorem exists_of_mem_wrap (h : l ∈ wrap cells gs) :
    ∃ line piece, line <:+: gs ∧ (∀ g ∈ line, g.char ≠ '\n') ∧
      piece <:+: expandTabs tabStop line ∧ l = truncate cells piece := by
  obtain ⟨line, hline, hl⟩ := List.mem_flatMap.mp h
  obtain ⟨hpart, hends⟩ := (splitLines_spec gs).2 line hline
  obtain ⟨piece, hpiece, rfl⟩ := List.mem_map.mp hl
  exact ⟨line, trimExcess cells piece, hpart, hends,
    (List.take_prefix _ piece).isInfix.trans (infix_of_mem_cutAt hpiece), rfl⟩

def untabbed (c : Char) : Char := if c = '\t' then ' ' else c

def Glyph.untabbed (part : Nat) (g : Glyph) : Glyph :=
  ⟨View.untabbed g.char, if g.run = 0 then 0 else part⟩

theorem exists_fillTabs_cons (stop position part : Nat) (p : List Glyph) (r : List (List Glyph)) :
    ∃ fill next, (fill ≠ 0 → endsInTab p = true) ∧
      fillTabs stop position part (p :: r) = p.map (Glyph.untabbed part) ++
        List.replicate fill ((p.map (Glyph.untabbed part)).getLast?.getD ⟨' ', 0⟩) ++
          fillTabs stop next (part + 1) r := by
  refine ⟨_, _, ?_, rfl⟩
  intro hfill
  by_contra h
  exact hfill (if_neg h)

section Stable

variable (hP : IsStable P)

include hP

theorem IsStable.untabbed {g : Glyph} (part : Nat) (h : P g) : P (g.untabbed part) := by
  have hmoved := hP.moved part h
  unfold Glyph.untabbed View.untabbed
  split
  · exact hP.blank hmoved
  · exact hmoved

theorem IsStable.fillTabs {stop position part : Nat} {ps : List (List Glyph)}
    (h : ∀ g ∈ ps.flatten, P g) : ∀ g ∈ fillTabs stop position part ps, P g := by
  induction ps generalizing position part with
  | nil => simp [View.fillTabs]
  | cons p r ih =>
    obtain ⟨fill, next, -, hcons⟩ := exists_fillTabs_cons stop position part p r
    rw [List.flatten_cons, List.forall_mem_append] at h
    have hshown : ∀ g ∈ p.map (Glyph.untabbed part), P g := by
      intro g hg
      obtain ⟨d, hd, rfl⟩ := List.mem_map.mp hg
      exact hP.untabbed part (h.1 d hd)
    rw [hcons]
    intro g hg
    rcases List.mem_append.mp hg with hg | hg
    · rcases List.mem_append.mp hg with hg | hg
      · exact hshown g hg
      · rw [(List.mem_replicate.mp hg).2]
        cases hlast : (p.map (Glyph.untabbed part)).getLast? with
        | none => exact hP.space
        | some d => exact hshown d (List.mem_of_getLast? hlast)
    · exact ih h.2 g hg

theorem IsStable.expandTabs (stop : Nat) (h : ∀ g ∈ gs, P g) :
    ∀ g ∈ expandTabs stop gs, P g := by
  rw [View.expandTabs]
  split
  · exact hP.fillTabs (by rwa [flatten_tabParts])
  · exact h

theorem IsStable.truncate (h : ∀ g ∈ gs, P g) : ∀ g ∈ truncate cells gs, P g := by
  have htake (n : Nat) : ∀ g ∈ gs.take n, P g := fun g hg => h g (List.mem_of_mem_take hg)
  rw [View.truncate]
  split
  · exact h
  · dsimp only
    split
    · intro g hg
      rcases List.mem_append.mp hg with hg | hg
      · exact htake _ g hg
      · obtain ⟨d, hd, rfl⟩ := List.mem_map.mp hg
        exact hP.blank (h d (List.mem_of_mem_drop (List.mem_of_mem_head? (by simpa using hd))))
    · exact htake _

theorem IsStable.wrap (h : ∀ g ∈ gs, g.char ≠ '\n' → P g) (hl : l ∈ wrap cells gs) :
    ∀ g ∈ l, P g := by
  obtain ⟨line, piece, hline, hends, hpiece, rfl⟩ := exists_of_mem_wrap hl
  have hexpanded := hP.expandTabs tabStop fun g hg => h g (hline.subset hg) (hends g hg)
  exact hP.truncate fun g hg => hexpanded g (hpiece.subset hg)

theorem IsStable.fitRuns {ps : List (List Glyph)} (h : ∀ g ∈ ps.flatten, P g) :
    ∀ g ∈ fitRuns cells ps, P g := by
  induction ps generalizing cells with
  | nil => simp [View.fitRuns]
  | cons p r ih =>
    rw [List.flatten_cons, List.forall_mem_append] at h
    rw [View.fitRuns]
    split
    · exact List.forall_mem_append.mpr ⟨h.1, ih h.2⟩
    · exact hP.truncate h.1

theorem IsStable.crop (h : ∀ g ∈ gs, P g) : ∀ g ∈ crop cells gs, P g := by
  rw [View.crop]
  split
  · exact h
  · exact hP.fitRuns (by rwa [List.flatten_splitBy])

end Stable

/-- Texts without two joiners in a row. -/
def HasNoJoined (s : List Char) : Prop := s.IsChain fun a b => ¬(a = Text.joiner ∧ b = Text.joiner)

instance (s : List Char) : Decidable (HasNoJoined s) :=
  inferInstanceAs (Decidable (s.IsChain _))

theorem HasNoJoined.part {s t : List Char} (h : HasNoJoined t) (hs : s <:+: t) : HasNoJoined s :=
  List.IsChain.infix h hs

theorem HasNoJoined.not_prefix {s : List Char} (h : HasNoJoined s) :
    ¬[Text.joiner, Text.joiner] <+: s := by
  intro hp
  have hpair := h.part hp.isInfix
  exact List.isChain_pair.mp hpair ⟨rfl, rfl⟩

/-- A text with spaces for its tabs, one or more for each. -/
inductive IsSpaced : List Char → List Char → Prop
  | nil : IsSpaced [] []
  | char (c : Char) {s t : List Char} : IsSpaced s t → IsSpaced (c :: s) (c :: t)
  | tab (n : Nat) {s t : List Char} : IsSpaced s t →
      IsSpaced ('\t' :: s) (' ' :: (List.replicate n ' ' ++ t))

theorem hasNoJoined_spaces (n : Nat) {s : List Char} (h : HasNoJoined s) :
    HasNoJoined (List.replicate n ' ' ++ s) := by
  induction n with
  | zero => exact h
  | succ n ih => exact List.IsChain.cons ih fun _ _ hj => absurd hj.1 (by decide)

theorem IsSpaced.head? {s t : List Char} (h : IsSpaced s t) (ht : t.head? = some Text.joiner) :
    s.head? = some Text.joiner := by
  cases h with
  | nil => cases ht
  | char c _ => exact ht
  | tab n _ => exact absurd (Option.some.inj ht) (by decide)

theorem HasNoJoined.spaced {s t : List Char} (h : HasNoJoined s) (hst : IsSpaced s t) :
    HasNoJoined t := by
  induction hst with
  | nil => exact h
  | @char c s t hst ih =>
    obtain ⟨hhead, hs⟩ := List.isChain_cons.mp h
    refine List.isChain_cons.mpr ⟨?_, ih hs⟩
    rintro _ ht ⟨hc, rfl⟩
    exact hhead _ (hst.head? ht) ⟨hc, rfl⟩
  | tab n _ ih => exact hasNoJoined_spaces (n + 1) (ih (List.isChain_cons.mp h).2)

theorem IsSpaced.untabbed_append {s t : List Char} (h : IsSpaced s t) (p : List Char) :
    IsSpaced (p ++ s) (p.map untabbed ++ t) := by
  induction p with
  | nil => exact h
  | cons c r ih =>
    by_cases hc : c = '\t'
    · subst hc
      exact .tab 0 ih
    · have hsame : untabbed c = c := if_neg hc
      rw [List.cons_append, List.map_cons, List.cons_append, hsame]
      exact .char c ih

theorem charsOf_append (gs hs : List Glyph) : charsOf (gs ++ hs) = charsOf gs ++ charsOf hs :=
  List.map_append

theorem charsOf_map_untabbed (part : Nat) (gs : List Glyph) :
    charsOf (gs.map (Glyph.untabbed part)) = (charsOf gs).map untabbed := by
  simp [charsOf, Glyph.untabbed, Function.comp_def]

theorem exists_of_endsInTab {p : List Glyph} (h : endsInTab p = true) :
    ∃ q run, p = q ++ [⟨'\t', run⟩] := by
  unfold endsInTab at h
  cases hlast : p.getLast? with
  | none =>
    rw [hlast] at h
    cases h
  | some g =>
    rw [hlast] at h
    obtain ⟨q, rfl⟩ := List.getLast?_eq_some_iff.mp hlast
    have hc : g.char = '\t' := by simpa using h
    exact ⟨q, g.run, by rw [← hc]⟩

theorem isSpaced_fillTabs (stop position part : Nat) (ps : List (List Glyph)) :
    IsSpaced (charsOf ps.flatten) (charsOf (fillTabs stop position part ps)) := by
  induction ps generalizing position part with
  | nil => exact .nil
  | cons p r ih =>
    obtain ⟨fill, next, hfill, hcons⟩ := exists_fillTabs_cons stop position part p r
    have hrest := ih next (part + 1)
    rw [List.flatten_cons, hcons, charsOf_append, charsOf_append, charsOf_append,
      charsOf_map_untabbed]
    cases fill with
    | zero => simpa [charsOf] using hrest.untabbed_append (charsOf p)
    | succ n =>
      obtain ⟨q, run, rfl⟩ := exists_of_endsInTab (hfill n.succ_ne_zero)
      have htab := (hrest.tab (n + 1)).untabbed_append (charsOf q)
      simpa [charsOf, untabbed, Glyph.untabbed] using htab

theorem HasNoJoined.expandTabs {gs : List Glyph} (h : HasNoJoined (charsOf gs)) (stop : Nat) :
    HasNoJoined (charsOf (expandTabs stop gs)) := by
  rw [View.expandTabs]
  split
  · have hspaced := isSpaced_fillTabs stop 0 1 (tabParts gs)
    rw [flatten_tabParts] at hspaced
    exact h.spaced hspaced
  · exact h

theorem isInfix_charsOf {gs hs : List Glyph} (h : gs <:+: hs) : charsOf gs <:+: charsOf hs :=
  h.map Glyph.char

theorem width_truncate_le {gs : List Glyph} (h : HasNoJoined (charsOf gs)) (cells : Nat) :
    Text.width (charsOf (truncate cells gs)) ≤ cells := by
  rw [truncate]
  split
  · assumption
  · have hfit := Text.width_take_fitting_le cells h.not_prefix
    rcases hn : Text.fitting cells (Text.graphemes (charsOf gs)) with ⟨n, cut⟩
    rw [hn] at hfit
    have htake : charsOf (gs.take n) = (charsOf gs).take n := List.map_take
    -- If a wide character is cut, the space in its place takes the cell that was left.
    cases cut with
    | false =>
      dsimp only
      rw [if_neg Bool.false_ne_true, htake]
      exact hfit
    | true =>
      dsimp only
      rw [if_pos rfl, charsOf_append, htake]
      cases (gs.drop n).head? with
      | none =>
        rw [Option.toList_none, List.map_nil, charsOf.eq_1 [], List.map_nil, List.append_nil]
        exact (Nat.le_add_right _ 1).trans hfit
      | some g =>
        have hspace := Text.widthFrom_concat_space_le none ((charsOf gs).take n)
        exact hspace.trans hfit

theorem width_le_of_mem_wrap {gs l : List Glyph} {cells : Nat} (h : HasNoJoined (charsOf gs))
    (hl : l ∈ wrap cells gs) : Text.width (charsOf l) ≤ cells := by
  obtain ⟨line, piece, hline, -, hpiece, rfl⟩ := exists_of_mem_wrap hl
  have hexpanded := (h.part (isInfix_charsOf hline)).expandTabs tabStop
  exact width_truncate_le (hexpanded.part (isInfix_charsOf hpiece)) cells

end CrateDocs.View
