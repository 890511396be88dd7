import CrateDocs.Decimal.Nearest
import CrateDocs.Text.Digit

/-!
Decimal numerals as they are written, in their parts. One without a fraction and an exponent stands
for a whole number, any other one for a float.
-/

namespace CrateDocs.Decimal

structure Numeral where
  negative : Bool
  whole : List Char
  fraction : Option (List Char)
  exponent : Option Int

def numeralLimit : Nat := 4300

namespace Numeral

def isWhole (x : Numeral) : Bool := x.fraction.isNone && x.exponent.isNone

def isTooLong (x : Numeral) : Bool := x.isWhole && decide (numeralLimit < x.whole.length)

def integer (x : Numeral) : Int :=
  let n : Int := Text.numberIn 10 x.whole
  if x.negative then -n else n

def float (x : Numeral) : Float :=
  let f := x.fraction.getD []
  let y := nearest (Text.numberIn 10 (x.whole ++ f)) (x.exponent.getD 0 - f.length)
  if x.negative then -y else y

end Numeral

end CrateDocs.Decimal
