import Mathlib.Algebra.Order.Ring.Int
import Mathlib.Data.Nat.Cast.Order.Ring
import Mathlib.Data.Prod.Lex
import Mathlib.Order.Compare

/-!
The order of floating-point numbers. All values but those that are no numbers stand in one linear
order, with both zeros at the same place; what is no number is not in it at all.
-/

namespace CrateDocs.Decimal

open Float.Model

/-- Where a value stands: the infinities outside, the negative numbers below zero and the positive
ones above it, each by exponent and then by mantissa. -/
def place : UnpackedFloat → ℤ ×ₗ ℤ ×ₗ ℤ
  | .infinity .positive => toLex (2, toLex (0, 0))
  | .infinity .negative => toLex (-2, toLex (0, 0))
  | .notANumber => toLex (0, toLex (0, 0))
  | .zero _ => toLex (0, toLex (0, 0))
  | .finite .positive m e _ => toLex (1, toLex (e, (m : ℤ)))
  | .finite .negative m e _ => toLex (-1, toLex (-e, -(m : ℤ)))

theorem compare_toLex {α β : Type} [LinearOrder α] [LinearOrder β] (a c : α) (b d : β) :
    compare (toLex (a, b)) (toLex (c, d)) = (compare a c).then (compare b d) := by
  rw [Prod.Lex.compare_def]
  rfl

theorem compare_cast (m n : ℕ) : compare (m : ℤ) (n : ℤ) = compare m n :=
  (compare_iff _ _).mpr (Nat.strictMono_cast.compares.mpr ((compare_iff m n).mp rfl))

theorem compare_neg (a b : ℤ) : compare (-a) (-b) = (compare a b).swap := by
  have hneg : StrictAnti (Neg.neg : ℤ → ℤ) := fun _ _ => Int.neg_lt_neg
  rw [Int.compare_swap]
  exact (compare_iff _ _).mpr (hneg.compares.mpr ((compare_iff b a).mp rfl))

theorem place_negative {m : ℕ} (e : ℤ) (hm : 0 < m) :
    place (.finite .negative m e hm) = toLex (-1, toLex (-e, -(m : ℤ))) := rfl

theorem place_positive {m : ℕ} (e : ℤ) (hm : 0 < m) :
    place (.finite .positive m e hm) = toLex (1, toLex (e, (m : ℤ))) := rfl

theorem compare_negative {m n : ℕ} {e f : ℤ} (hm : 0 < m) (hn : 0 < n) :
    UnpackedFloat.compare (.finite .negative m e hm) (.finite .negative n f hn) =
      some (compare (place (.finite .negative m e hm)) (place (.finite .negative n f hn))) := by
  rw [place_negative, place_negative, compare_toLex, compare_toLex, compare_neg e f,
    compare_neg m n, compare_cast, ← Ordering.swap_then]
  rfl

theorem compare_positive {m n : ℕ} {e f : ℤ} (hm : 0 < m) (hn : 0 < n) :
    UnpackedFloat.compare (.finite .positive m e hm) (.finite .positive n f hn) =
      some (compare (place (.finite .positive m e hm)) (place (.finite .positive n f hn))) := by
  rw [place_positive, place_positive, compare_toLex, compare_toLex, compare_cast]
  rfl

theorem compare_eq_place {a b : UnpackedFloat} (ha : a ≠ .notANumber) (hb : b ≠ .notANumber) :
    a.compare b = some (compare (place a) (place b)) := by
  rcases a with (_ | _) | _ | _ | ⟨_ | _, m, e, hm⟩ <;>
    rcases b with (_ | _) | _ | _ | ⟨_ | _, n, f, hn⟩
  case finite.negative.finite.negative => exact compare_negative hm hn
  case finite.positive.finite.positive => exact compare_positive hm hn
  -- Values of different sign or size are told apart by the first number of their places.
  all_goals first | exact absurd rfl ha | exact absurd rfl hb | rfl

theorem compare_eq_none {a b : UnpackedFloat} (h : a = .notANumber ∨ b = .notANumber) :
    a.compare b = none := by
  rcases h with rfl | rfl
  · rfl
  · rcases a with (_ | _) | _ | _ | ⟨_ | _, m, e, hm⟩ <;> rfl

def IsNumber (x : Float) : Prop := x.isNaN = false

def rank (x : Float) : ℤ ×ₗ ℤ ×ₗ ℤ := place x.toModel.unpack

theorem isNumber_iff {x : Float} : IsNumber x ↔ x.toModel.unpack ≠ .notANumber := by
  show UnpackedFloat.isNaN x.toModel.unpack = false ↔ _
  cases x.toModel.unpack with
  | notANumber => exact ⟨nofun, fun h => absurd rfl h⟩
  | infinity => exact ⟨fun _ => nofun, fun _ => rfl⟩
  | zero => exact ⟨fun _ => nofun, fun _ => rfl⟩
  | finite => exact ⟨fun _ => nofun, fun _ => rfl⟩

variable {x y : Float}

theorem le_def : x ≤ y ↔ (x.toModel.unpack.compare y.toModel.unpack).any Ordering.isLE = true := by
  show decide (UnpackedFloat.le x.toModel.unpack y.toModel.unpack = true) = true ↔ _
  rw [decide_eq_true_eq]
  rfl

theorem lt_def : x < y ↔ x.toModel.unpack.compare y.toModel.unpack = some .lt := by
  show decide (UnpackedFloat.lt x.toModel.unpack y.toModel.unpack = true) = true ↔ _
  rw [decide_eq_true_eq]
  show (_ == _) = true ↔ _
  rw [beq_iff_eq]

theorem le_iff_rank (hx : IsNumber x) (hy : IsNumber y) : x ≤ y ↔ rank x ≤ rank y := by
  rw [le_def, compare_eq_place (isNumber_iff.mp hx) (isNumber_iff.mp hy), Option.any_some]
  show (compare (rank x) (rank y)).isLE = true ↔ _
  rw [Ordering.isLE_iff_ne_gt]
  exact compare_le_iff_le

theorem lt_iff_rank (hx : IsNumber x) (hy : IsNumber y) : x < y ↔ rank x < rank y := by
  rw [lt_def, compare_eq_place (isNumber_iff.mp hx) (isNumber_iff.mp hy), Option.some_inj]
  exact compare_lt_iff_lt

theorem compare_eq_none_of_not_isNumber (h : ¬(IsNumber x ∧ IsNumber y)) :
    x.toModel.unpack.compare y.toModel.unpack = none := by
  rw [isNumber_iff, isNumber_iff, not_and_or, not_not, not_not] at h
  exact compare_eq_none h

theorem isNumber_of_lt (h : x < y) : IsNumber x ∧ IsNumber y := by
  by_contra hn
  rw [lt_def, compare_eq_none_of_not_isNumber hn] at h
  cases h

end CrateDocs.Decimal
