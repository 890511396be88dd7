/-!
Halves of surrogate pairs without their other half. No text of characters holds one, so each of them
has a private character of the last plane as its stand-in, from U+10D800 to U+10DFFF. A text that
has such a character itself is not told apart from one with the half. The half comes before U+E000
in the order of code points, its stand-in after all characters up to U+10D7FF, so that orders of
texts are those of the stand-ins.
-/

namespace CrateDocs.Text.Surrogate

def isHigh (unit : Nat) : Bool := decide (0xD800 ≤ unit) && decide (unit < 0xDC00)

def isLow (unit : Nat) : Bool := decide (0xDC00 ≤ unit) && decide (unit < 0xE000)

def isUnit (n : Nat) : Bool := isHigh n || isLow n

def shift : Nat := 0x100000

def standIn (unit : Nat) : Char := Char.ofNat (shift + unit)

def unit? (c : Char) : Option Nat :=
  if isUnit (c.toNat - shift) then some (c.toNat - shift) else none

def codePoint (c : Char) : Nat := (unit? c).getD c.toNat

def char? (n : Nat) : Option Char :=
  if isUnit n then some (standIn n)
  else if h : n.isValidChar then some (Char.ofNatAux n h)
  else none

/-- Second halves that stand for a byte of a file name that is no text. -/
def byte? (c : Char) : Option UInt8 :=
  match unit? c with
  | some n => if 0xDC80 ≤ n ∧ n ≤ 0xDCFF then some (UInt8.ofNat (n - 0xDC00)) else none
  | none => none

def hasBytes (c : Char) : Bool := (unit? c).isNone || (byte? c).isSome

def join (high low : Nat) : Char := Char.ofNat (0x10000 + (high - 0xD800) * 0x400 + (low - 0xDC00))

end CrateDocs.Text.Surrogate
