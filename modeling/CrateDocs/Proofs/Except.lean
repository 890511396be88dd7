import Mathlib.Data.List.Forall2

/-!
Computations that may fail, one after the other over a list. They succeed if each of them does, and a
failure is the failure of one of them.
-/

namespace CrateDocs

variable {ε δ α β : Type}

theorem mapError_eq_ok_iff {f : ε → δ} {x : Except ε α} {a : α} :
    x.mapError f = .ok a ↔ x = .ok a := by
  cases x <;> simp [Except.mapError]

theorem mapError_eq_error_iff {f : ε → δ} {x : Except ε α} {d : δ} :
    x.mapError f = .error d ↔ ∃ e, x = .error e ∧ f e = d := by
  cases x <;> simp [Except.mapError]

theorem mapM_eq_ok_iff {f : α → Except ε β} {as : List α} {bs : List β} :
    as.mapM f = .ok bs ↔ List.Forall₂ (fun a b => f a = .ok b) as bs := by
  induction as generalizing bs with
  | nil => simp [pure, Except.pure, eq_comm]
  | cons a r ih =>
    rw [List.mapM_cons, List.forall₂_cons_left_iff]
    simp only [← ih]
    cases f a with
    | error e => simp [bind, Except.bind]
    | ok b => cases r.mapM f <;> simp [bind, Except.bind, pure, Except.pure, eq_comm]

theorem exists_of_foldlM_eq_error {f : β → α → Except ε β} {l : List α} {b : β}
    {e : ε} (h : l.foldlM f b = .error e) : ∃ a ∈ l, ∃ b', f b' a = .error e := by
  induction l generalizing b with
  | nil => cases h
  | cons a r ih =>
    rw [List.foldlM_cons] at h
    cases hf : f b a with
    | error e' =>
      rw [hf] at h
      obtain rfl : e' = e := Except.error.inj h
      exact ⟨a, List.mem_cons_self, b, hf⟩
    | ok b' =>
      rw [hf] at h
      obtain ⟨a', ha, hb⟩ := ih h
      exact ⟨a', List.mem_cons_of_mem a ha, hb⟩

theorem exists_of_foldlM_concat_eq_ok {f : β → α → Except ε β} {l : List α} {a : α}
    {b c : β} (h : (l ++ [a]).foldlM f b = .ok c) : ∃ b', f b' a = .ok c := by
  rw [List.foldlM_append] at h
  cases hl : l.foldlM f b with
  | error e =>
    rw [hl] at h
    cases h
  | ok b' =>
    rw [hl] at h
    refine ⟨b', ?_⟩
    cases hf : f b' a with
    | error e =>
      have herror : [a].foldlM f b' = .error e := by
        rw [List.foldlM_cons, hf]
        rfl
      cases herror.symm.trans h
    | ok b'' =>
      have hok : [a].foldlM f b' = .ok b'' := by
        rw [List.foldlM_cons, hf]
        rfl
      exact hok.symm.trans h

end CrateDocs
