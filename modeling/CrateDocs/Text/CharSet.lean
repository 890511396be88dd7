/-!
Sets of characters, written as the runs of code points they consist of. The tables of this folder
are values of this type.
-/

namespace CrateDocs.Text

structure CharSet where
  runs : List (Nat × Nat)

namespace CharSet

def holds (runs : List (Nat × Nat)) (n : Nat) : Bool :=
  runs.any fun r => decide (r.1 ≤ n) && decide (n ≤ r.2)

def contains (s : CharSet) (c : Char) : Bool := holds s.runs c.toNat

theorem contains_iff {s : CharSet} {c : Char} :
    s.contains c = true ↔ ∃ r ∈ s.runs, r.1 ≤ c.toNat ∧ c.toNat ≤ r.2 := by
  simp [contains, holds]

end CharSet

end CrateDocs.Text
