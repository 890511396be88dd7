namespace CrateDocs.Decimal

/-- The float nearest to `n` times ten to the power `exponent`. Numbers beyond all floats, and those
that are too small for any, need no exact arithmetic. -/
def nearest (n : Nat) (exponent : Int) : Float :=
  let size := ((Nat.toDigits 10 n).length : Int) + exponent
  if n = 0 ∨ size < -400 then 0.0
  else if 400 < size then 1.0 / 0.0
  else if 0 ≤ exponent then Float.ofScientific (n * Nat.pow 10 exponent.toNat) false 0
  else Float.ofScientific n true (-exponent).toNat

end CrateDocs.Decimal
