import CrateDocs.Decimal.Binary

/-!
The fewest digits that read back as the same float, and of those the nearest to it.
-/

namespace CrateDocs.Decimal

/-- The numbers that round to a float, as fractions of one denominator. -/
structure Interval where
  low : Nat
  value : Nat
  high : Nat
  den : Nat
  closed : Bool

def interval (m : Nat) (e : Int) : Interval :=
  let narrow : Bool := decide (m = leadingBit) && decide (-1074 < e)
  let (num, den) := scaled 2 (4 * m) e
  let quarter := num / (4 * m)
  ⟨num - (if narrow then quarter else 2 * quarter), num, num + 2 * quarter, 4 * den, m % 2 == 0⟩

def Interval.holds (i : Interval) (num den : Nat) : Bool :=
  if i.closed then decide (i.low * den ≤ num * i.den) && decide (num * i.den ≤ i.high * den)
  else decide (i.low * den < num * i.den) && decide (num * i.den < i.high * den)

/-- The number of digits before the point, or minus the number of zeros after it. -/
def magnitude (num den : Nat) : Int :=
  if den ≤ num then (Nat.toDigits 10 (num / den)).length
  else
    0 - (((List.range 400).takeWhile fun j => decide (num * Nat.pow 10 (j + 1) < den)).length : Int)

/-- The points of a decimal grid on both sides of the value that lie in the interval. -/
def gridHit (i : Interval) (exponent : Int) : Option Nat :=
  let (up, down) := scaled 10 1 exponent
  let num := i.value * down
  let den := i.den * up
  let below := num / den
  let hit (n : Nat) : Bool := decide (0 < n) && i.holds (n * up) down
  if hit below && hit (below + 1) then some (roundDiv num den)
  else if hit below then some below
  else if hit (below + 1) then some (below + 1)
  else none

/-- Digits as a natural number, and the power of ten that they are multiplied by. -/
def shortest (m : Nat) (e : Int) : Nat × Int :=
  let i := interval m e
  let size := magnitude i.value i.den
  match (List.range 17).findSome? fun (n : Nat) =>
      (gridHit i (size - (n + 1 : Int))).map fun d => (d, size - (n + 1 : Int)) with
  | some r => r
  | none => (0, 0)

def dropZeros : Nat → Nat × Int → Nat × Int
  | 0, r => r
  | fuel + 1, (d, e) => if d ≠ 0 ∧ d % 10 = 0 then dropZeros fuel (d / 10, e + 1) else (d, e)

/-- Positional from a ten-thousandth to below ten to the sixteenth, otherwise with an exponent of at
least two digits. An integral number keeps one place. -/
def shownAmount (m : Nat) (e : Int) : List Char :=
  if m = 0 then "0.0".toList
  else
    let (d, exponent) := dropZeros 20 (shortest m e)
    let ds := Nat.toDigits 10 d
    let point := (ds.length : Int) + exponent
    if -4 < point ∧ point ≤ 16 then
      if point ≤ 0 then "0.".toList ++ List.replicate (-point).toNat '0' ++ ds
      else if (ds.length : Int) ≤ point then
        ds ++ List.replicate (point - ds.length).toNat '0' ++ ".0".toList
      else ds.take point.toNat ++ '.' :: ds.drop point.toNat
    else
      let fraction := match ds.drop 1 with
        | [] => []
        | r => '.' :: r
      let sign := if 1 ≤ point then '+' else '-'
      ds.take 1 ++ fraction ++ 'e' :: sign :: padded 2 (point - 1).natAbs

def shown (x : Float) : String :=
  let sign := if isNegative x then ['-'] else []
  match amount x with
  | .finite m e => String.ofList (sign ++ shownAmount m e)
  | .infinite => String.ofList (sign ++ "inf".toList)
  | .undefined => "nan"

end CrateDocs.Decimal
