namespace CrateDocs

def dropRepeats [DecidableEq α] : List α → List α
  | [] => []
  | a :: r =>
    match dropRepeats r with
    | [] => [a]
    | b :: t => if a = b then b :: t else a :: b :: t

def sortedSet [DecidableEq α] (le : α → α → Bool) (l : List α) : List α :=
  dropRepeats (l.mergeSort le)

theorem mem_dropRepeats [DecidableEq α] {a : α} {l : List α} : a ∈ dropRepeats l ↔ a ∈ l := by
  induction l with
  | nil => simp [dropRepeats]
  | cons b r ih =>
    simp only [dropRepeats]
    split
    · next h => simp [h] at ih; simp [ih]
    · next c t h =>
      rw [h] at ih
      split
      · next hb => subst hb; simp only [List.mem_cons] at ih ⊢; grind
      · simp only [List.mem_cons] at ih ⊢; grind

theorem mem_sortedSet [DecidableEq α] {le : α → α → Bool} {a : α} {l : List α} :
    a ∈ sortedSet le l ↔ a ∈ l := by
  simp [sortedSet, mem_dropRepeats]

end CrateDocs
