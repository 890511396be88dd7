/-!
Cutting a text at a separator: at its first occurrence, at its last one, at all of them. A cut
never loses text: joining the pieces with the separator gives the text back.
-/

namespace CrateDocs.Text

def cutFirst (sep : List Char) : List Char → Option (List Char × List Char)
  | [] => none
  | c :: r =>
    if sep.isPrefixOf (c :: r) then some ([], r.drop (sep.length - 1))
    else (cutFirst sep r).map fun p => (c :: p.1, p.2)

def cutLast (sep : List Char) : List Char → Option (List Char × List Char)
  | [] => none
  | c :: r =>
    match cutLast sep r with
    | some p => some (c :: p.1, p.2)
    | none => if sep.isPrefixOf (c :: r) then some ([], r.drop (sep.length - 1)) else none

theorem length_of_cutFirst {sep s a b : List Char} (h : cutFirst sep s = some (a, b)) :
    b.length < s.length := by
  induction s generalizing a with
  | nil => simp [cutFirst] at h
  | cons c r ih =>
    simp only [cutFirst] at h
    split at h
    · simp only [Option.some.injEq, Prod.mk.injEq] at h
      obtain ⟨_, rfl⟩ := h
      simp only [List.length_drop, List.length_cons]
      omega
    · obtain ⟨⟨a', b'⟩, hp, hq⟩ := Option.map_eq_some_iff.1 h
      simp only [Prod.mk.injEq] at hq
      obtain ⟨_, rfl⟩ := hq
      have := ih hp
      simp only [List.length_cons]
      omega

def splitOn (sep s : List Char) : List (List Char) :=
  match _h : cutFirst sep s with
  | none => [s]
  | some (a, b) => a :: splitOn sep b
termination_by s.length
decreasing_by exact length_of_cutFirst _h

def splitChar (d : Char) : List Char → List (List Char)
  | [] => [[]]
  | c :: r =>
    if c = d then [] :: splitChar d r
    else
      match splitChar d r with
      | [] => [[c]]
      | p :: ps => (c :: p) :: ps

def cutChar (d : Char) : List Char → List Char × Option (List Char)
  | [] => ([], none)
  | c :: r =>
    if c = d then ([], some r)
    else ((c :: (cutChar d r).1), (cutChar d r).2)

def occursIn (part : List Char) : List Char → Bool
  | [] => part.isEmpty
  | c :: r => part.isPrefixOf (c :: r) || occursIn part r

theorem splitChar_ne_nil (d : Char) (s : List Char) : splitChar d s ≠ [] := by
  cases s with
  | nil => simp [splitChar]
  | cons c r =>
    simp only [splitChar]
    split
    · simp
    · split <;> simp

end CrateDocs.Text
