import CrateDocs.Order
import Mathlib.Data.List.Sort

/-!
A sorted list without repetitions is settled by its elements: it is strictly increasing, and two
lists with the same elements give the same one.
-/

namespace CrateDocs

variable {α : Type} {le : α → α → Bool}

structure IsLinear (le : α → α → Bool) : Prop where
  trans : ∀ a b c, le a b → le b c → le a c
  total : ∀ a b, le a b || le b a
  antisymm : ∀ a b, le a b → le b a → a = b

theorem isLinear_of_key {β : Type} [LinearOrder β] {key : α → β}
    (hk : Function.Injective key) (h : ∀ a b, le a b = decide (key a ≤ key b)) : IsLinear le where
  trans a b c hab hbc := by
    simp only [h, decide_eq_true_eq] at hab hbc ⊢
    exact hab.trans hbc
  total a b := by
    simp only [h, Bool.or_eq_true, decide_eq_true_eq]
    exact le_total _ _
  antisymm a b hab hba := by
    simp only [h, decide_eq_true_eq] at hab hba
    exact hk (le_antisymm hab hba)

theorem isLinear_le [LinearOrder α] : IsLinear fun a b : α => decide (a ≤ b) :=
  isLinear_of_key Function.injective_id fun _ _ => rfl

variable [DecidableEq α]

theorem pairwise_dropRepeats (hle : IsLinear le) {l : List α} (h : l.Pairwise fun a b => le a b) :
    (dropRepeats l).Pairwise fun a b => le a b ∧ a ≠ b := by
  induction l with
  | nil => exact .nil
  | cons a r ih =>
    obtain ⟨har, hr⟩ := List.pairwise_cons.mp h
    have hp := ih hr
    have hmem : ∀ c ∈ dropRepeats r, le a c := fun c hc => har c (mem_dropRepeats.mp hc)
    unfold dropRepeats
    rcases hd : dropRepeats r with _ | ⟨b, t⟩
    · exact List.pairwise_singleton _ _
    · rw [hd] at hp hmem
      by_cases hab : a = b
      · simpa only [hab, if_true] using hp
      · simp only [hab, if_false]
        refine List.pairwise_cons.mpr ⟨?_, hp⟩
        intro c hc
        refine ⟨hmem c hc, ?_⟩
        rintro rfl
        rcases List.mem_cons.mp hc with rfl | hct
        · exact hab rfl
        · have hba := ((List.pairwise_cons.mp hp).1 a hct).1
          exact hab (hle.antisymm a b (hmem b (by simp)) hba)

theorem pairwise_sortedSet (hle : IsLinear le) (l : List α) :
    (sortedSet le l).Pairwise fun a b => le a b ∧ a ≠ b :=
  pairwise_dropRepeats hle (List.pairwise_mergeSort hle.trans hle.total l)

theorem pairwise_lt_sortedSet [LinearOrder α] (l : List α) :
    (sortedSet (fun a b => decide (a ≤ b)) l).Pairwise (· < ·) := by
  refine (pairwise_sortedSet isLinear_le l).imp fun {a b} h => ?_
  exact lt_of_le_of_ne (of_decide_eq_true h.1) h.2

theorem sortedSet_of_pairwise_lt [LinearOrder α] {l : List α} (h : l.Pairwise (· < ·)) :
    sortedSet (fun a b => decide (a ≤ b)) l = l := by
  have hperm : (sortedSet (fun a b => decide (a ≤ b)) l).Perm l := by
    rw [List.perm_ext_iff_of_nodup ((pairwise_lt_sortedSet l).imp ne_of_lt) (h.imp ne_of_lt)]
    exact fun a => mem_sortedSet
  exact hperm.eq_of_pairwise (fun a b _ _ hab hba => absurd hab hba.asymm)
    (pairwise_lt_sortedSet l) h

theorem nodup_eraseDups (l : List α) : l.eraseDups.Nodup := by
  match l with
  | [] => exact List.nodup_nil
  | a :: r =>
    rw [List.eraseDups_cons, List.nodup_cons]
    refine ⟨fun ha => ?_, nodup_eraseDups _⟩
    have := List.mem_eraseDups.mp ha
    simp at this
termination_by l.length
decreasing_by exact Nat.lt_succ_of_le (List.length_filter_le _ _)

theorem sortedSet_eq_of_mem_iff (hle : IsLinear le) {l m : List α} (h : ∀ a, a ∈ l ↔ a ∈ m) :
    sortedSet le l = sortedSet le m := by
  have hl := pairwise_sortedSet hle l
  have hm := pairwise_sortedSet hle m
  have hperm : (sortedSet le l).Perm (sortedSet le m) := by
    rw [List.perm_ext_iff_of_nodup (hl.imp fun h => h.2) (hm.imp fun h => h.2)]
    intro a
    rw [mem_sortedSet, mem_sortedSet, h]
  exact hperm.eq_of_pairwise (fun a b _ _ hab hba => hle.antisymm a b hab.1 hba.1) hl hm

end CrateDocs
