import CrateDocs.Charset.KsX1001
import CrateDocs.Charset.Reader

/-!
Korean characters in bytes. KS X 1001 holds some of the syllables; the others are written as their
letters, or have codes that count them, or the code of each syllable is made of its letters. A
syllable is a leading consonant, a vowel and perhaps a trailing consonant; the letters alone are
numbered in their common alphabet, the consonants before the vowels.
-/

namespace CrateDocs.Charset.Korean

def leading : List Nat :=
  [0, 1, 3, 6, 7, 8, 16, 17, 18, 20, 21, 22, 23, 24, 25, 26, 27, 28, 29]

def trailing : List Nat :=
  [0, 1, 2, 3, 4, 5, 6, 8, 9, 10, 11, 12, 13, 14, 15, 16, 17, 19, 20, 21, 22, 23, 25, 26, 27, 28,
    29]

def consonants : Nat := 30

def letter (n : Nat) : Char := Char.ofNat (0x3131 + n)

def syllable (lead vowel trail : Nat) : Char :=
  Char.ofNat (0xAC00 + lead * 588 + vowel * 28 + trail)

def syllables : Nat := 11172

def filler : Nat := 0xD4

def letters : Nat := 0xA4

def spelled? (lead vowel trail : Nat) : Option Char := do
  let i ← if 0xA1 ≤ lead then leading.idxOf? (lead - 0xA1) else none
  let k ← if 0xBF ≤ vowel ∧ vowel ≤ 0xD3 then some (vowel - 0xBF) else none
  let n ←
    if trail = filler then some 0
    else if 0xA1 ≤ trail then (trailing.idxOf? (trail - 0xA1)).map (· + 1)
    else none
  return syllable i k n

/-- The extended code: a syllable that has no cell is a filler and three letters. -/
def extended (b : Nat) (r : List Nat) : Reading :=
  if b < 0x80 then .byte b
  else
    match r with
    | [] => .cut r
    | c :: t =>
      if b = letters ∧ c = filler then
        match t with
        | x :: lead :: y :: vowel :: z :: trail :: _ =>
          if x = letters ∧ y = letters ∧ z = letters then .ofChar? (spelled? lead vowel trail) 7
          else .fault 0
        | _ => .cut r
      else .ofChar? (ksX1001.highAt? b c) 1

def unlisted (listed : List Char) : List Char :=
  go listed ((List.range syllables).map fun n => Char.ofNat (0xAC00 + n)) []
where
  go : List Char → List Char → List Char → List Char
    | _, [], done => done.reverse
    | [], cs, done => done.reverse ++ cs
    | l :: ls, c :: cs, done => if l = c then go ls cs done else go (l :: ls) cs (c :: done)

def listed : List Char := ((ksX1001.lines.toList.drop 15).take 25).flatMap String.toList

def trail? (c : Nat) : Option Nat :=
  if 0x41 ≤ c ∧ c ≤ 0x5A then some (c - 0x41)
  else if 0x61 ≤ c ∧ c ≤ 0x7A then some (c - 0x47)
  else if 0x81 ≤ c ∧ c ≤ 0xFE then some (c - 0x4D)
  else none

/-- The number of the unlisted syllable of two bytes. The first rows take all second bytes, the
others only those that KS X 1001 leaves. -/
def unlistedNumber? (b c : Nat) : Option Nat := do
  let k ← trail? c
  if 0x81 ≤ b ∧ b ≤ 0xA0 then return (b - 0x81) * 178 + k
  else if 0xA1 ≤ b ∧ b ≤ 0xC6 ∧ c ≤ 0xA0 then return 32 * 178 + (b - 0xA1) * 84 + k
  else none

def windows (rest : Array Char) : Nat → List Nat → Reading :=
  .pair fun b c =>
    (ksX1001.highAt? b c <|> (unlistedNumber? b c).bind fun n => rest[n]?).map fun c => [c]

inductive Part where
  | filler
  | letter (n : Nat)

def leadPart? (n : Nat) : Option Part :=
  if n = 1 then some .filler
  else if 2 ≤ n ∧ n ≤ 20 then some (.letter (n - 2))
  else none

def vowelPart? (n : Nat) : Option Part :=
  if n = 2 then some .filler
  else if 3 ≤ n ∧ n ≤ 29 ∧ 2 ≤ n % 8 then some (.letter (n / 8 * 6 + n % 8 - 3))
  else none

def trailPart? (n : Nat) : Option Part :=
  if n = 1 then some .filler
  else if 2 ≤ n ∧ n ≤ 17 then some (.letter (n - 1))
  else if 19 ≤ n ∧ n ≤ 29 then some (.letter (n - 2))
  else none

def composed? (code : Nat) : Option Char := do
  let lead ← leadPart? (code / 1024 % 32)
  let vowel ← vowelPart? (code / 32 % 32)
  let trail ← trailPart? (code % 32)
  match lead, vowel, trail with
  | .filler, .filler, .filler => return '\u3000'
  | .filler, .filler, .letter n => (trailing[n - 1]?).map Korean.letter
  | .filler, .letter n, .filler => return Korean.letter (consonants + n)
  | .letter n, .filler, .filler => (leading[n]?).map Korean.letter
  | .letter i, .letter k, .filler => return syllable i k 0
  | .letter i, .letter k, .letter n => return syllable i k n
  | _, _, _ => none

def shiftedCell? (b c : Nat) : Option Nat :=
  if b = 0xD8 ∨ b = 0xDF ∨ 0xF9 < b ∨ c < 0x31 ∨ (0x7F ≤ c ∧ c ≤ 0x90) ∨ c = 0xFF then none
  else if b = 0xDA ∧ 0xA1 ≤ c ∧ c ≤ 0xD3 then none
  else
    let row := if b < 0xE0 then 2 * (b - 0xD9) else 2 * b - 0x197
    some (row * rowSize + if c < 0x91 then c - 0x31 else c - 0x43)

def johabPair? (b c : Nat) : Option Char :=
  if b < 0xD8 then composed? (b * 256 + c)
  else (shiftedCell? b c).bind fun n => ksX1001.char? n

def johab : Nat → List Nat → Reading := .pair fun b c => (johabPair? b c).map fun c => [c]

end CrateDocs.Charset.Korean
