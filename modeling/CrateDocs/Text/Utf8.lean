import CrateDocs.Text.Digit

/-!
UTF-8. A text is read up to its first fault: a byte that starts no character, a byte that does not
continue one, or the end of the text within a character.
-/

namespace CrateDocs.Text.Utf8

inductive Cause where
  | start
  | continuation
  | unfinished
  deriving DecidableEq

/-- The faulty bytes are those from `offset` on, `size` of them; `first` is the first one. -/
structure Fault where
  cause : Cause
  offset : Nat
  size : Nat
  first : Nat
  deriving DecidableEq

def Cause.message : Cause → String
  | .start => "invalid start byte"
  | .continuation => "invalid continuation byte"
  | .unfinished => "unexpected end of data"

def Fault.message (f : Fault) : String :=
  let what :=
    if f.size = 1 then
      "byte 0x" ++ String.ofList (hexDigits 2 f.first) ++ " in position " ++ toString f.offset
    else "bytes in position " ++ toString f.offset ++ "-" ++ toString (f.offset + f.size - 1)
  "'utf-8' codec can't decode " ++ what ++ ": " ++ f.cause.message

inductive Head where
  | char (c : Char) (rest : List UInt8)
  | fault (cause : Cause) (size : Nat)

def isTail (b : UInt8) : Bool := decide (0x80 ≤ b.toNat) && decide (b.toNat < 0xC0)

def bits (b : UInt8) : Nat := b.toNat % 64

/-- Whether `b` may come second after `n`: no character has a shorter form, is a surrogate, or lies
beyond the last code point. -/
def isSecond (n : Nat) (b : UInt8) : Bool :=
  isTail b && !(n == 0xE0 && decide (b.toNat < 0xA0)) && !(n == 0xED && decide (0xA0 ≤ b.toNat)) &&
    !(n == 0xF0 && decide (b.toNat < 0x90)) && !(n == 0xF4 && decide (0x90 ≤ b.toNat))

def head (b : UInt8) (r : List UInt8) : Head :=
  let n := b.toNat
  if n < 0x80 then .char (Char.ofNat n) r
  else if n < 0xC2 ∨ 0xF5 ≤ n then .fault .start 1
  else
    match r with
    | [] => .fault .unfinished 1
    | b2 :: r2 =>
      if !isSecond n b2 then .fault .continuation 1
      else if n < 0xE0 then .char (Char.ofNat ((n - 0xC0) * 64 + bits b2)) r2
      else
        match r2 with
        | [] => .fault .unfinished 2
        | b3 :: r3 =>
          if !isTail b3 then .fault .continuation 2
          else if n < 0xF0 then
            .char (Char.ofNat ((n - 0xE0) * 4096 + bits b2 * 64 + bits b3)) r3
          else
            match r3 with
            | [] => .fault .unfinished 3
            | b4 :: r4 =>
              if !isTail b4 then .fault .continuation 3
              else
                .char (Char.ofNat ((n - 0xF0) * 262144 + bits b2 * 4096 + bits b3 * 64 + bits b4))
                  r4

def width (b : UInt8) : Nat :=
  if b.toNat < 0x80 then 1 else if b.toNat < 0xE0 then 2 else if b.toNat < 0xF0 then 3 else 4

theorem length_of_head {b : UInt8} {r t : List UInt8} {c : Char} (h : head b r = .char c t) :
    t.length ≤ r.length := by
  simp only [head] at h
  repeat' split at h
  all_goals cases h <;> grind

def decodeFrom (offset : Nat) (acc : List Char) : List UInt8 → Except Fault (List Char)
  | [] => .ok acc.reverse
  | b :: r =>
    match _h : head b r with
    | .char c t => decodeFrom (offset + width b) (c :: acc) t
    | .fault cause size => .error ⟨cause, offset, size, b.toNat⟩
termination_by s => s.length
decreasing_by
  have := length_of_head _h
  simp only [List.length_cons]
  omega

def decode (s : List UInt8) : Except Fault (List Char) := decodeFrom 0 [] s

def decodeLossy : Nat → List UInt8 → List Char
  | 0, _ => []
  | _, [] => []
  | fuel + 1, b :: r =>
    match head b r with
    | .char c t => c :: decodeLossy fuel t
    | .fault _ size => '\ufffd' :: decodeLossy fuel (r.drop (size - 1))

def encodeChar (c : Char) : List UInt8 :=
  let n := c.toNat
  let tail (k : Nat) : UInt8 := UInt8.ofNat (0x80 + n / k % 64)
  if n < 0x80 then [UInt8.ofNat n]
  else if n < 0x800 then [UInt8.ofNat (0xC0 + n / 64), tail 1]
  else if n < 0x10000 then [UInt8.ofNat (0xE0 + n / 4096), tail 64, tail 1]
  else [UInt8.ofNat (0xF0 + n / 262144), tail 4096, tail 64, tail 1]

def encode (s : List Char) : List UInt8 := s.flatMap encodeChar

end CrateDocs.Text.Utf8
