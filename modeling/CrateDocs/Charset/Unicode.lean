import CrateDocs.Charset.Reader
import CrateDocs.Text.Surrogate

/-!
Unicode in units of two and four bytes, and in seven bits. A byte order mark at the start chooses
the order of the bytes where no order is given.
-/

namespace CrateDocs.Charset

inductive ByteOrder where
  | little
  | big
  deriving DecidableEq

namespace ByteOrder

def pair : ByteOrder → Nat → Nat → Nat
  | .little, a, b => b * 256 + a
  | .big, a, b => a * 256 + b

def quad : ByteOrder → Nat → Nat → Nat → Nat → Nat
  | .little, a, b, c, d => (d * 256 + c) * 65536 + (b * 256 + a)
  | .big, a, b, c, d => (a * 256 + b) * 65536 + (c * 256 + d)

end ByteOrder

namespace Units

def two (o : ByteOrder) (a : Nat) (r : List Nat) : Reading :=
  match r with
  | [] => .cut r
  | b :: t =>
    let unit := o.pair a b
    if Text.Surrogate.isHigh unit then
      match t with
      | c :: d :: _ =>
        let next := o.pair c d
        if Text.Surrogate.isLow next then .text [Text.Surrogate.join unit next] 3 else .fault 1
      | _ => .cut r
    else if Text.Surrogate.isLow unit then .fault 1
    else .text [Char.ofNat unit] 1

def four (o : ByteOrder) (a : Nat) (r : List Nat) : Reading :=
  match r with
  | b :: c :: d :: _ =>
    let n := o.quad a b c d
    if n.isValidChar then .text [Char.ofNat n] 3 else .fault 3
  | _ => .cut r

def marked16 : List UInt8 → ByteOrder × List UInt8
  | 0xFF :: 0xFE :: r => (.little, r)
  | 0xFE :: 0xFF :: r => (.big, r)
  | s => (.little, s)

def marked32 : List UInt8 → ByteOrder × List UInt8
  | 0xFF :: 0xFE :: 0 :: 0 :: r => (.little, r)
  | 0 :: 0 :: 0xFE :: 0xFF :: r => (.big, r)
  | s => (.little, s)

end Units

/-!
Seven bits: the characters that ASCII lacks are units of sixteen bits, written in digits of six bits
between a plus sign and the first character that is no digit. A minus sign that ends the digits is
not part of the text.
-/

namespace SevenBit

def digit? (b : Nat) : Option Nat :=
  if 0x41 ≤ b ∧ b ≤ 0x5A then some (b - 0x41)
  else if 0x61 ≤ b ∧ b ≤ 0x7A then some (b - 0x47)
  else if 0x30 ≤ b ∧ b ≤ 0x39 then some (b + 4)
  else if b = '+'.toNat then some 62
  else if b = '/'.toNat then some 63
  else none

structure Rest where
  size : Nat
  bits : Nat
  high : Option Nat

def Rest.isBroken (s : Rest) : Bool := decide (6 ≤ s.size) || s.bits != 0

def standing (unit : Option Nat) : List Char := (unit.map Text.Surrogate.standIn).toList

def complete (high : Option Nat) (unit : Nat) : List Char × Option Nat :=
  match high with
  | some h =>
    if Text.Surrogate.isLow unit then ([Text.Surrogate.join h unit], none)
    else if Text.Surrogate.isHigh unit then (standing (some h), some unit)
    else (standing (some h) ++ (Text.Surrogate.char? unit).toList, none)
  | none =>
    if Text.Surrogate.isHigh unit then ([], some unit)
    else ((Text.Surrogate.char? unit).toList, none)

def addDigit (s : Rest) (d : Nat) : List Char × Rest :=
  let size := s.size + 6
  let bits := s.bits * 64 + d
  if size < 16 then ([], { s with size := size, bits := bits })
  else
    let spare := Nat.pow 2 (size - 16)
    let (cs, high) := complete s.high (bits / spare)
    (cs, ⟨size - 16, bits % spare, high⟩)

def direct (b : Nat) (r : List Nat) : Reading × Option Rest :=
  if b = '+'.toNat then
    match r with
    | c :: _ =>
      if c = '-'.toNat then (.text ['+'] 1, none)
      else if (digit? c).isNone then (.fault 1, none)
      else (.text [] 0, some ⟨0, 0, none⟩)
    | [] => (.text [] 0, some ⟨0, 0, none⟩)
  else if b < 0x80 then (.byte b, none)
  else (.fault 0, none)

def prepend (cs : List Char) : Reading → Reading
  | .text ds more => .text (cs ++ ds) more
  | o => o

def step (s : Option Rest) (b : Nat) (r : List Nat) : Reading × Option Rest :=
  match s with
  | none => direct b r
  | some s =>
    match digit? b with
    | some d =>
      let (cs, t) := addDigit s d
      (.text cs 0, some t)
    | none =>
      if s.isBroken then (.fault 0, none)
      else if b = '-'.toNat then (.text (standing s.high) 0, none)
      else if b < 0x80 then
        let (o, t) := direct b r
        (prepend (standing s.high) o, t)
      else direct b r

def machine : Machine (Option Rest) where
  start := none
  step := step
  finish s :=
    match s with
    | some s => if s.isBroken || s.high.isSome then [none] else []
    | none => []

end SevenBit

end CrateDocs.Charset
