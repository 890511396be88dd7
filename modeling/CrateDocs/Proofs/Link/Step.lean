import CrateDocs.Link.Resolve
import CrateDocs.Proofs.Item.Anchor

/-!
Steps of a walk along the path of a link. What a step does is told by its part of the path alone, and
only where it leads to hangs on where the walk is.
-/

namespace CrateDocs.Link

inductive Move where
  | up
  | stay
  | down (kind : Option Kind) (segment : String)
  | fault (what : Kind.Unknown)

def Move.ofPart (part : List Char) : Move :=
  if part = "..".toList then .up
  else if part = "index.html".toList then .stay
  else if Cursor.htmlSuffix.isSuffixOf part then
    match Anchor.read (part.take (part.length - Cursor.htmlSuffix.length)) with
    | .ok (some (k, s)) => .down (some k) s
    | .ok none =>
      .down none (String.ofList (part.take (part.length - Cursor.htmlSuffix.length)))
    | .error u => .fault u
  else .down (some .module) (String.ofList part)

namespace Cursor

def move (c : Cursor) : Move → Except Cause Cursor
  | .up => c.up
  | .stay => .ok c
  | .down k s => .ok (c.child k s)
  | .fault u => .error (.unknownKind u)

theorem step_eq_move (c : Cursor) (part : List Char) : c.step part = c.move (.ofPart part) := by
  rw [step, Move.ofPart]
  by_cases hup : part = "..".toList
  · rw [if_pos hup, if_pos hup]
    rfl
  · rw [if_neg hup, if_neg hup]
    by_cases hindex : part = "index.html".toList
    · rw [if_pos hindex, if_pos hindex]
      rfl
    · rw [if_neg hindex, if_neg hindex]
      by_cases hpage : htmlSuffix.isSuffixOf part = true
      · rw [if_pos hpage, if_pos hpage]
        dsimp only [anchor?]
        cases Anchor.read (part.take (part.length - htmlSuffix.length)) with
        | error u => rfl
        | ok o => cases o <;> rfl
      · rw [if_neg hpage, if_neg hpage]
        rfl

end Cursor

theorem Move.ofPart_child {part : List Char} (hup : part ≠ "..".toList)
    (hindex : part ≠ "index.html".toList) :
    (∃ k s, Move.ofPart part = .down k s) ∨ ∃ u, Move.ofPart part = .fault u := by
  rw [ofPart, if_neg hup, if_neg hindex]
  split
  · split
    · exact .inl ⟨_, _, rfl⟩
    · exact .inl ⟨_, _, rfl⟩
    · exact .inr ⟨_, rfl⟩
  · exact .inl ⟨_, _, rfl⟩

theorem Move.ofPart_eq_fault {part : List Char} {u : Kind.Unknown}
    (h : Move.ofPart part = .fault u) :
    ∃ stem, part = stem ++ Cursor.htmlSuffix ∧ Anchor.read stem = .error u := by
  unfold ofPart at h
  split at h
  · cases h
  · split at h
    · cases h
    · split at h
      · next hsuffix =>
        obtain ⟨stem, rfl⟩ := List.isSuffixOf_iff_suffix.mp hsuffix
        rw [List.length_append, Nat.add_sub_cancel, List.take_left] at h
        split at h
        · cases h
        · cases h
        · next v hv =>
          obtain rfl : v = u := Move.fault.inj h
          exact ⟨stem, rfl, hv⟩
      · cases h

namespace Cursor

variable {c : Cursor} {f : List Char}

def arrive (c : Cursor) (fragment : Option (List Char)) : Except Cause Target := do
  let there ← match fragment with
    | some f => do .ok ((← c.anchor? f).getD c)
    | none => .ok c
  match there.name with
  | some n => .ok (.item there.kind n)
  | none => .error .root

theorem arrive_of_name {n : Name} (h : c.name = some n) :
    c.arrive none = .ok (.item c.kind n) := by
  simp [arrive, h, Bind.bind, Except.bind]

theorem arrive_of_no_name (h : c.name = none) : c.arrive none = .error .root := by
  simp [arrive, h, Bind.bind, Except.bind]

theorem arrive_of_read_eq_none (h : Anchor.read f = .ok none) :
    c.arrive (some f) = c.arrive none := by
  simp [arrive, anchor?, h, Bind.bind, Except.bind]

theorem arrive_of_read_eq_error {u : Kind.Unknown} (h : Anchor.read f = .error u) :
    c.arrive (some f) = .error (.unknownKind u) := by
  simp [arrive, anchor?, h, Bind.bind, Except.bind]

theorem arrive_of_read_eq_some {k : Kind} {s : String} (h : Anchor.read f = .ok (some (k, s))) :
    c.arrive (some f) = (c.child (some k) s).arrive none := by
  simp [arrive, anchor?, h, Bind.bind, Except.bind]

theorem arrive_child (c : Cursor) (k : Option Kind) (s : String) :
    ∃ n, (c.child k s).name = some n ∧ (c.child k s).arrive none = .ok (.item k n) :=
  ⟨_, rfl, arrive_of_name rfl⟩

end Cursor

theorem follow_eq (name : Name) (kind : Kind) (link : List Char) :
    follow name kind link =
      (steps (Text.cutChar '#' link).1).foldlM Cursor.step
          (start name kind (steps (Text.cutChar '#' link).1)) >>=
        fun c => c.arrive (Text.cutChar '#' link).2 := rfl

end CrateDocs.Link
