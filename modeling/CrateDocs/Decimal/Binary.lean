/-!
Floating-point numbers as exact fractions, and rounding of fractions.

Quotients of whole numbers as floats: which of them are whole, vanish, or are beyond all floats.

Numbers with a fixed count of decimal places, rounded to the nearest one; a half goes to the even
neighbour.
-/

namespace CrateDocs.Decimal

inductive Amount where
  | finite (mantissa : Nat) (exponent : Int)
  | infinite
  | undefined

def signBit : Nat := 0x8000000000000000

def leadingBit : Nat := 0x10000000000000

def isNegative (x : Float) : Bool := decide (signBit ≤ x.toBits.toNat)

/-- The amount of a float: `mantissa` times two to the power `exponent`. -/
def amount (x : Float) : Amount :=
  let bits : Nat := x.toBits.toNat % signBit
  let fraction : Nat := bits % leadingBit
  let exponent : Nat := bits / leadingBit
  if exponent = 2047 then (if fraction = 0 then .infinite else .undefined)
  else if exponent = 0 then .finite fraction (-1074)
  else .finite (leadingBit + fraction) ((exponent : Int) - 1075)

/-- The numerator and the denominator of `m` times `base` to the power `e`. -/
def scaled (base m : Nat) (e : Int) : Nat × Nat :=
  if 0 ≤ e then (m * Nat.pow base e.toNat, 1) else (m, Nat.pow base (-e).toNat)

/-- The natural number nearest to a fraction; a half goes to the even neighbour. -/
def roundDiv (num den : Nat) : Nat :=
  let q := num / den
  let r := num % den
  if 2 * r < den then q
  else if 2 * r = den then (if q % 2 = 0 then q else q + 1)
  else q + 1

theorem roundDiv_mul_near {num den : Nat} (h : 0 < den) :
    2 * (roundDiv num den * den) ≤ 2 * num + den ∧
      2 * num ≤ 2 * (roundDiv num den * den) + den := by
  have hd := Nat.div_add_mod num den
  have hr := Nat.mod_lt num h
  have hc : num / den * den = den * (num / den) := Nat.mul_comm ..
  have hs : (num / den + 1) * den = den * (num / den) + den := by rw [Nat.succ_mul, hc]
  simp only [roundDiv]
  split
  · omega
  · split
    · split <;> omega
    · omega

inductive Quotient where
  | zero
  | whole
  | broken
  | infinite
  deriving DecidableEq

def fractionBits : Nat := 52

def lowestExponent : Int := -1074

def highestExponent : Int := 971

/-- The numerator and the denominator of a fraction divided by two to the power `e`. -/
def shifted (num den : Nat) (e : Int) : Nat × Nat :=
  if 0 ≤ e then (num, den * Nat.pow 2 e.toNat) else (num * Nat.pow 2 (-e).toNat, den)

def mantissaExponent (num den : Nat) : Int :=
  let e := (Nat.log2 num : Int) - Nat.log2 den - fractionBits - 1
  let (n, d) := shifted num den e
  max lowestExponent (if n / d < 2 * leadingBit then e else e + 1)

/-- What the float nearest to `num / den` is; `den` must not be zero. -/
def Quotient.of (num den : Nat) : Quotient :=
  if num = 0 then .zero
  else
    let e := mantissaExponent num den
    let (n, d) := shifted num den e
    let m := roundDiv n d
    if m = 0 then .zero
    else if highestExponent < e ∨ (e = highestExponent ∧ 2 * leadingBit ≤ m) then .infinite
    else if 0 ≤ e then .whole
    else if m % Nat.pow 2 (-e).toNat = 0 then .whole
    else .broken

def padded (width n : Nat) : List Char :=
  let ds := Nat.toDigits 10 n
  List.replicate (width - ds.length) '0' ++ ds

def fixedAmount (places n : Nat) : List Char :=
  if places = 0 then Nat.toDigits 10 n
  else Nat.toDigits 10 (n / Nat.pow 10 places) ++ '.' :: padded places (n % Nat.pow 10 places)

def fixed (places : Nat) (x : Float) : String :=
  let sign := if isNegative x then ['-'] else []
  match amount x with
  | .finite m e =>
    let (num, den) := scaled 2 m e
    String.ofList (sign ++ fixedAmount places (roundDiv (num * Nat.pow 10 places) den))
  | .infinite => String.ofList (sign ++ "inf".toList)
  | .undefined => "nan"

end CrateDocs.Decimal
