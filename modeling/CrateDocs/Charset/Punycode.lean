import CrateDocs.Charset.Page
import CrateDocs.Text.Split
import CrateDocs.Text.Surrogate

/-!
Text in the letters of domain names. The ASCII characters of a text come first; the others follow
the last hyphen as numbers, each of which says how far it is to the next character in the order of
code points and of places. The digits of a number carry weights that adapt to the numbers before.
-/

namespace CrateDocs.Charset

namespace Punycode

def digit? (b : Nat) : Option Nat :=
  if 0x41 ≤ b ∧ b ≤ 0x5A then some (b - 0x41)
  else if 0x61 ≤ b ∧ b ≤ 0x7A then some (b - 0x61)
  else if 0x30 ≤ b ∧ b ≤ 0x39 then some (b - 22)
  else none

/-- A digit below the threshold of its place ends a number. -/
def threshold (place bias : Nat) : Nat := max 1 (min 26 (36 * (place + 1) - bias))

def scale (divisions distance : Nat) : Nat :=
  if 455 < distance then scale (divisions + 36) (distance / 35)
  else divisions + 36 * distance / (distance + 38)
termination_by distance

def adapt (distance : Nat) (isFirst : Bool) (size : Nat) : Nat :=
  let d := if isFirst then distance / 700 else distance / 2
  scale 0 (d + d / size)

/-- The text so far, the code point and the place from which the next number counts, and the number
that is being read: its value, the weight of its next digit and how many digits it has. -/
structure State where
  text : List Char
  code : Nat
  place : Nat
  bias : Nat
  isFirst : Bool
  value : Nat
  weight : Nat
  digits : Nat

def start (text : List Char) : State where
  text := text
  code := 0x80
  place := 0
  bias := 72
  isFirst := true
  value := 0
  weight := 1
  digits := 0

/-- Inserts the character that a complete number stands for. A code point beyond the last one is a
fault; a lossy reading has a question mark for it and counts on from there. -/
def insert? (strict : Bool) (s : State) (distance : Nat) : Option State :=
  let size := s.text.length + 1
  let place := s.place + distance
  let counted := s.code + place / size
  if strict ∧ 0x10FFFF < counted then none
  else
    let code := if 0x10FFFF < counted then '?'.toNat else counted
    let c := (Text.Surrogate.char? code).getD missing
    let k := place % size
    some {
      text := s.text.take k ++ c :: s.text.drop k
      code := code
      place := k + 1
      bias := adapt distance s.isFirst size
      isFirst := false
      value := 0
      weight := 1
      digits := 0 }

def insertAll? (strict : Bool) (s : State) : List Nat → Option (List Char)
  | [] => if strict ∧ s.digits ≠ 0 then none else some s.text
  | b :: r =>
    match digit? b with
    | none => if strict then none else some s.text
    | some d =>
      let t := threshold s.digits s.bias
      let value := s.value + d * s.weight
      if d < t then
        match insert? strict s value with
        | some u => insertAll? strict u r
        | none => none
      else
        insertAll? strict
          { s with value := value, weight := s.weight * (36 - t), digits := s.digits + 1 } r

def split (s : List Nat) : List Nat × List Nat :=
  let tail := s.reverse.takeWhile fun b => b != '-'.toNat
  (s.take (s.length - tail.length - 1), tail.reverse)

def decode? (strict : Bool) (s : List UInt8) : Option (List Char) :=
  let (base, digits) := split (s.map UInt8.toNat)
  if digits.any fun b => decide (0x80 ≤ b) then none
  else if strict ∧ base.any fun b => decide (0x80 ≤ b) then none
  else
    let text := base.map fun b => if 0x80 ≤ b then missing else Char.ofNat b
    insertAll? strict (start text) digits

end Punycode

/-!
Domain names. A name in ASCII stands for itself, if none of its labels is marked as Punycode.
-/

namespace DomainName

def mark : List Char := "xn--".toList

def isReadable (s : List Char) : Bool := (Text.splitChar '.' s).all fun l => !mark.isPrefixOf l

def decode? (s : List UInt8) : Option (List Char) :=
  let t := s.map fun b => Char.ofNat b.toNat
  if (t.all fun c => decide (c.toNat < 0x80)) && isReadable t then some t else none

end DomainName

end CrateDocs.Charset
