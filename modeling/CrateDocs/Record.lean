namespace CrateDocs

abbrev Record (α : Type) := List (String × α)

namespace Record

def get? (name : String) : Record α → Option α
  | [] => none
  | (n, a) :: r => if n = name then some a else get? name r

/-- Sets the value of a name. A name that is there already keeps its place. -/
def set (name : String) (a : α) : Record α → Record α
  | [] => [(name, a)]
  | (n, b) :: r => if n = name then (n, a) :: r else (n, b) :: set name a r

theorem get?_set_self (name : String) (a : α) (r : Record α) :
    get? name (set name a r) = some a := by
  induction r with
  | nil => simp [set, get?]
  | cons e r ih =>
    obtain ⟨n, b⟩ := e
    simp only [set]
    split
    · next h => simp [get?, h]
    · next h => simpa [get?, h] using ih

theorem get?_set_other {name other : String} (h : other ≠ name) (a : α) (r : Record α) :
    get? other (set name a r) = get? other r := by
  induction r with
  | nil => simp [set, get?, Ne.symm h]
  | cons e r ih =>
    obtain ⟨n, b⟩ := e
    simp only [set]
    split
    · next hn => subst hn; simp [get?, Ne.symm h]
    · next hn => simp [get?, ih]

end Record

end CrateDocs
