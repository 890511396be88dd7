import CrateDocs.Text.Lines

/-!
The lines of a text, told from how the text is written. Each line has a break after it, which may
be of any kind and differ from line to line; the last line may go without one.
-/

namespace CrateDocs.Text

def IsBreak (b : List Char) : Prop := b = ['\r', '\n'] ∨ ∃ c, isLineEnd c = true ∧ b = [c]

def HasNoEnd (line : List Char) : Prop := ∀ c ∈ line, isLineEnd c = false

instance (line : List Char) : Decidable (HasNoEnd line) :=
  decidable_of_iff (line.all fun c => !isLineEnd c) (by simp [HasNoEnd])

/-- A text that consists of some lines. A carriage return by itself is a break only before
something else than a line feed. -/
inductive Lined : List (List Char) → List Char → Prop
  | nil : Lined [] []
  | last {l : List Char} : HasNoEnd l → l ≠ [] → Lined [l] l
  | line {l b : List Char} {ls : List (List Char)} {s : List Char} : HasNoEnd l → IsBreak b →
      (b = ['\r'] → s.head? ≠ some '\n') → Lined ls s → Lined (l :: ls) (l ++ b ++ s)

theorem isLineEnd_return : isLineEnd '\r' = true := by decide

theorem isLineEnd_feed : isLineEnd '\n' = true := by decide

theorem unifyLineEnds_cons {c : Char} (h : c ≠ '\r') (s : List Char) :
    unifyLineEnds (c :: s) = c :: unifyLineEnds s := by
  rw [unifyLineEnds.eq_3 c s fun r hc _ => h hc, if_neg h]

theorem unifyLineEnds_return {s : List Char} (h : s.head? ≠ some '\n') :
    unifyLineEnds ('\r' :: s) = '\n' :: unifyLineEnds s := by
  rw [unifyLineEnds.eq_3 '\r' s (by rintro r - rfl; exact h rfl), if_pos rfl]

theorem unifyLineEnds_append {l : List Char} (h : HasNoEnd l) (s : List Char) :
    unifyLineEnds (l ++ s) = l ++ unifyLineEnds s := by
  induction l with
  | nil => rfl
  | cons c r ih =>
    obtain ⟨hc, hr⟩ := List.forall_mem_cons.mp h
    have hne : c ≠ '\r' := by
      rintro rfl
      exact Bool.noConfusion (isLineEnd_return.symm.trans hc)
    rw [List.cons_append, unifyLineEnds_cons hne, ih hr]
    rfl

theorem unifyLineEnds_break {b s : List Char} (hb : IsBreak b)
    (hs : b = ['\r'] → s.head? ≠ some '\n') :
    ∃ c, isLineEnd c = true ∧ c ≠ '\r' ∧ unifyLineEnds (b ++ s) = c :: unifyLineEnds s := by
  rcases hb with rfl | ⟨c, hc, rfl⟩
  · exact ⟨'\n', isLineEnd_feed, by decide, rfl⟩
  · by_cases hr : c = '\r'
    · subst hr
      exact ⟨'\n', isLineEnd_feed, by decide, unifyLineEnds_return (hs rfl)⟩
    · exact ⟨c, hc, hr, unifyLineEnds_cons hr s⟩

theorem linesFrom_cons {c : Char} (h : c ≠ '\r') (line s : List Char) :
    linesFrom line (c :: s) =
      if isLineEnd c then line.reverse :: linesFrom [] s else linesFrom (c :: line) s := by
  rw [linesFrom.eq_def]
  split
  · next he => cases he
  · next he => exact absurd (List.cons.inj he).1 h
  · next he =>
    cases he
    rfl

theorem linesFrom_append {l : List Char} (h : HasNoEnd l) (line s : List Char) :
    linesFrom line (l ++ s) = linesFrom (l.reverse ++ line) s := by
  induction l generalizing line with
  | nil => rfl
  | cons c r ih =>
    obtain ⟨hc, hr⟩ := List.forall_mem_cons.mp h
    have hne : c ≠ '\r' := by
      rintro rfl
      exact Bool.noConfusion (isLineEnd_return.symm.trans hc)
    rw [List.cons_append, linesFrom_cons hne, hc, if_neg Bool.false_ne_true, ih hr]
    simp

theorem lines_of_lined {ls : List (List Char)} {s : List Char} (h : Lined ls s) :
    lines (unifyLineEnds s) = ls := by
  induction h with
  | nil => rfl
  | @last l hl hne =>
    have hu := unifyLineEnds_append hl []
    rw [List.append_nil] at hu
    rw [hu, lines, linesFrom_append hl, unifyLineEnds, linesFrom.eq_def]
    simp [hne]
  | @line l b ls s hl hb hs _ ih =>
    obtain ⟨c, hc, hne, hu⟩ := unifyLineEnds_break hb hs
    rw [List.append_assoc, unifyLineEnds_append hl, hu, lines, linesFrom_append hl,
      linesFrom_cons hne, if_pos hc, List.append_nil, List.reverse_reverse]
    exact congrArg (l :: ·) ih

theorem unifyLineEnds_eq_self {s : List Char} (h : '\r' ∉ s) : unifyLineEnds s = s := by
  induction s with
  | nil => rfl
  | cons c r ih =>
    obtain ⟨hc, hr⟩ := List.ne_and_not_mem_of_not_mem_cons h
    rw [unifyLineEnds_cons hc.symm, ih hr]

theorem hasNoEnd_nil : HasNoEnd [] := by
  intro c hc
  cases hc

theorem exists_append_of_not_hasNoEnd {s : List Char} (h : ¬HasNoEnd s) :
    ∃ l c r, s = l ++ c :: r ∧ HasNoEnd l ∧ isLineEnd c = true := by
  induction s with
  | nil => exact absurd hasNoEnd_nil h
  | cons c s ih =>
    by_cases hc : isLineEnd c = true
    · exact ⟨[], c, s, rfl, hasNoEnd_nil, hc⟩
    · have hs : ¬HasNoEnd s := fun hs => h (List.forall_mem_cons.mpr ⟨by simpa using hc, hs⟩)
      obtain ⟨l, e, r, rfl, hl, he⟩ := ih hs
      exact ⟨c :: l, e, r, rfl, List.forall_mem_cons.mpr ⟨by simpa using hc, hl⟩, he⟩

theorem exists_lined (s : List Char) : ∃ ls, Lined ls s := by
  induction hn : s.length using Nat.strongRecOn generalizing s with
  | _ n ih =>
    by_cases hends : HasNoEnd s
    · by_cases hs : s = []
      · subst hs
        exact ⟨[], .nil⟩
      · exact ⟨[s], .last hends hs⟩
    · obtain ⟨l, c, r, rfl, hl, hc⟩ := exists_append_of_not_hasNoEnd hends
      simp only [List.length_append, List.length_cons] at hn
      have hsplit : l ++ c :: r = l ++ [c] ++ r := by simp
      by_cases hfeed : c = '\r' ∧ r.head? = some '\n'
      · obtain ⟨rfl, hr⟩ := hfeed
        obtain ⟨t, rfl⟩ := List.head?_eq_some_iff.mp hr
        simp only [List.length_cons] at hn
        obtain ⟨ls, hls⟩ := ih t.length (by omega) t rfl
        exact ⟨l :: ls, by simpa using Lined.line hl (.inl rfl) (by simp) hls⟩
      · obtain ⟨ls, hls⟩ := ih r.length (by omega) r rfl
        rw [hsplit]
        refine ⟨l :: ls, .line hl (.inr ⟨c, hc, rfl⟩) (fun hreturn hr => hfeed ⟨?_, hr⟩) hls⟩
        simpa using hreturn

def unlines (ls : List (List Char)) : List Char := ls.flatMap fun l => l ++ ['\n']

theorem lined_unlines {ls : List (List Char)} (h : ∀ l ∈ ls, HasNoEnd l) :
    Lined ls (unlines ls) := by
  induction ls with
  | nil => exact .nil
  | cons l r ih =>
    obtain ⟨hl, hr⟩ := List.forall_mem_cons.mp h
    exact .line hl (.inr ⟨'\n', isLineEnd_feed, rfl⟩) (by simp) (ih hr)

theorem splitOn_unlines {ls : List (List Char)} (h : ∀ l ∈ ls, '\n' ∉ l) :
    (unlines ls).splitOn '\n' = ls ++ [[]] := by
  induction ls with
  | nil => rfl
  | cons l r ih =>
    obtain ⟨hl, hr⟩ := List.forall_mem_cons.mp h
    have hcons : unlines (l :: r) = l ++ '\n' :: unlines r := by simp [unlines]
    rw [hcons, List.splitOn_append_cons_self, List.splitOn_eq_singleton hl, ih hr]
    rfl

end CrateDocs.Text
