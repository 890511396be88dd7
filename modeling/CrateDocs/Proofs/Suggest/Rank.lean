import CrateDocs.Proofs.Decimal.Order
import CrateDocs.Proofs.Order
import CrateDocs.Suggest.Rank
import Mathlib.Data.List.Infix
import Mathlib.Data.String.Basic

/-!
The best of some names. Whatever names are scored by, the best ones are the front of one list: all
names that are good enough, by score and then in order. So they do not hang on the order in which the
names are given, and a higher threshold only cuts the list off earlier.
-/

namespace CrateDocs.Suggest

open Decimal

theorem isNumber_total (base added : Float) : IsNumber (total base added) := by
  unfold total
  dsimp only
  split
  · next h => exact (isNumber_of_lt h).1
  · exact show Float.isNaN 1.0 = false by decide

def RanksBefore (score : String → Float) (a b : String) : Prop :=
  score b < score a ∨ (score a ≤ score b ∧ score b ≤ score a) ∧ a ≤ b

def rankKey (score : String → Float) (n : String) : (ℤ ×ₗ ℤ ×ₗ ℤ)ᵒᵈ ×ₗ String :=
  toLex (OrderDual.toDual (rank (score n)), n)

def ranksBefore (score : String → Float) (a b : String) : Bool :=
  decide (rankKey score a ≤ rankKey score b)

variable {score : String → Float} {a b : String}

theorem rankKey_injective (score : String → Float) : Function.Injective (rankKey score) :=
  fun _ _ h => congrArg (fun k => (ofLex k).2) h

theorem isLinear_ranksBefore (score : String → Float) : IsLinear (ranksBefore score) :=
  isLinear_of_key (rankKey_injective score) fun _ _ => rfl

theorem ranksBefore_iff (h : ∀ n, IsNumber (score n)) :
    ranksBefore score a b = true ↔ RanksBefore score a b := by
  rw [ranksBefore, decide_eq_true_eq, RanksBefore, lt_iff_rank (h b) (h a),
    le_iff_rank (h a) (h b), le_iff_rank (h b) (h a), ← le_antisymm_iff]
  exact Prod.Lex.toLex_le_toLex

theorem precedes_eq (h : ∀ n, IsNumber (score n)) (a b : String) :
    Scored.precedes ⟨a, score a⟩ ⟨b, score b⟩ = ranksBefore score a b := by
  rw [Bool.eq_iff_iff, ranksBefore_iff h, RanksBefore, lt_iff_rank (h b) (h a)]
  unfold Scored.precedes
  split
  · next hab =>
    have hba : ¬rank (score b) < rank (score a) := not_lt.mpr ((le_iff_rank (h a) (h b)).mp hab)
    simp [hab, hba]
  · next hab =>
    have hba : rank (score b) < rank (score a) :=
      not_le.mp fun hle => hab ((le_iff_rank (h a) (h b)).mpr hle)
    simp [hba]

section Best

variable (base added : String → Float) (query : String) (limit : Int) (asked : Float)
  (names : List String)

def isEligible (n : String) : Bool :=
  n != query && !(base n == 0) && decide (effective query asked ≤ total (base n) (added n))

def ranked : List String :=
  (names.filter (isEligible base added query asked)).mergeSort
    (ranksBefore fun n => total (base n) (added n))

theorem eligible_eq :
    eligible query (effective query asked) (fun n => score? (base n) (added n)) names =
      (names.filter (isEligible base added query asked)).map
        fun n => ⟨n, total (base n) (added n)⟩ := by
  have hone (n : String) : (if n = query then none
      else ((score? (base n) (added n)).filter fun x => decide (effective query asked ≤ x)).map
        (Scored.mk n)) = if isEligible base added query asked n then
          some ⟨n, total (base n) (added n)⟩ else none := by
    unfold isEligible score?
    by_cases hq : n = query
    · simp [hq]
    · cases hb : base n == 0 <;> simp [hq, Option.filter_some, apply_ite]
  rw [eligible, List.filterMap_congr fun n _ => hone n]
  induction names with
  | nil => rfl
  | cons n r ih =>
    rw [List.filterMap_cons, List.filter_cons]
    cases isEligible base added query asked n with
    | true => simp [ih]
    | false => simp [ih]

theorem best_eq : best base added query limit asked names =
    (ranked base added query asked names).take limit.toNat := by
  rw [best, select, eligible_eq, List.map_take, ranked]
  congr 1
  rw [List.map_mergeSort (s := ranksBefore fun n => total (base n) (added n)), List.map_map]
  · exact congrArg (List.mergeSort · _) (List.map_id _)
  · simp only [List.mem_map]
    rintro _ ⟨a, -, rfl⟩ _ ⟨b, -, rfl⟩
    exact precedes_eq (fun n => isNumber_total (base n) (added n)) a b

theorem ranked_perm :
    (ranked base added query asked names).Perm
      (names.filter (isEligible base added query asked)) :=
  List.mergeSort_perm _ _

theorem pairwise_ranked :
    (ranked base added query asked names).Pairwise
      (RanksBefore fun n => total (base n) (added n)) := by
  have hle := isLinear_ranksBefore fun n => total (base n) (added n)
  refine (List.pairwise_mergeSort hle.trans hle.total _).imp fun h => ?_
  exact (ranksBefore_iff fun n => isNumber_total (base n) (added n)).mp h

theorem eq_ranked {l : List String}
    (hp : l.Perm (names.filter (isEligible base added query asked)))
    (hl : l.Pairwise fun a b => ranksBefore (fun n => total (base n) (added n)) a b = true) :
    l = ranked base added query asked names := by
  have hle := isLinear_ranksBefore fun n => total (base n) (added n)
  exact (hp.trans (ranked_perm base added query asked names).symm).eq_of_pairwise
    (fun a b _ _ => hle.antisymm a b) hl (List.pairwise_mergeSort hle.trans hle.total _)

end Best

end CrateDocs.Suggest
