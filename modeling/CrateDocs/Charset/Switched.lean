import CrateDocs.Charset.Chinese
import CrateDocs.Charset.Iso
import CrateDocs.Charset.Japanese
import CrateDocs.Charset.KsX1001

/-!
Seven-bit codes whose escape sequences switch between sets of characters. A set is put into one of
three slots: the first one is in use at the start, the second one between shifts, and the third one
for one character at a time.
-/

namespace CrateDocs.Charset

inductive Repertoire where
  | ascii
  | roman
  | katakana
  | jis0208
  | jis0212
  | firstPlane (e : Edition)
  | secondPlane
  | korean
  | simplified
  | western
  | greek
  deriving DecidableEq

namespace Repertoire

def isWide : Repertoire → Bool
  | .ascii | .roman | .katakana | .western | .greek => false
  | _ => true

def single? : Repertoire → Nat → Option Char
  | .ascii, b => some (Char.ofNat b)
  | .roman, b => some (CrateDocs.Charset.roman b)
  | .katakana, b => halfWidth? (b + 0x80)
  | _, _ => none

def double? (s : Repertoire) (b c : Nat) : Option (List Char) :=
  match s with
  | .jis0208 => (jisX0208.at? b c).map fun c => [c]
  | .jis0212 => (jisX0212.at? b c).map fun c => [c]
  | .korean => (ksX1001.at? b c).map fun c => [c]
  | .simplified => (Simplified.narrow? (b + 0x80) (c + 0x80)).map fun c => [c]
  | .firstPlane e =>
    (cell? b c).bind fun n => if n = wideTilde then some ['~'] else Charset.firstPlane? e n
  | .secondPlane => ((cell? b c).bind (Charset.secondPlane? .second)).map fun c => [c]
  | _ => none

def laterGreek : List Nat := [0x24, 0x25, 0x2A]

def lifted? (s : Repertoire) (b : Nat) : Option Char :=
  match s with
  | .ascii => if b < 0x80 then some (Char.ofNat b) else none
  | .western => if b < 0x80 then some (Char.ofNat (b + 0x80)) else none
  | .greek =>
    if laterGreek.contains b then none
    else if b < 0x80 then (iso8859Part7.read [UInt8.ofNat (b + 0x80)]).head?.join
    else some (Char.ofNat (b - 0x80))
  | _ => none

end Repertoire

/-- A code is given by the sets that it knows, with the last byte of their escape sequences: first
those of one byte, then those of two. `shifts` says that the second slot is in use, `lifts` the
third one. -/
structure SwitchedCode where
  narrow : List (Char × Repertoire)
  wide : List (Char × Repertoire)
  shifts : Bool
  lifts : Bool

namespace SwitchedCode

structure State where
  first : Repertoire
  second : Repertoire
  third : Repertoire
  shifted : Bool
  /-- Whether an unknown escape sequence goes on. -/
  passing : Bool

def start : State where
  first := .ascii
  second := .ascii
  third := .ascii
  shifted := false
  passing := false

def escape : Nat := 0x1B

def isLast (b : Nat) : Bool := b == 0x40 || (decide (0x41 ≤ b) && decide (b ≤ 0x5A))

def isIntroducer (b : Nat) : Bool := ['(', ')', '$', '.', '&'].any fun c => c.toNat == b

inductive Extent where
  | length (n : Nat)
  | tooLong
  | cut

/-- The extent of an escape sequence of which `taken` bytes have been seen; it may have `room` more.
The announcement of a revision, an ampersand and an at sign, does not end it in a code without
shifts. -/
def extent (shifts : Bool) (room taken : Nat) (r : List Nat) : Extent :=
  match room, r with
  | 0, _ => .tooLong
  | _, [] => .cut
  | k + 1, b :: t =>
    if isLast b then .length (taken + 1)
    else if !shifts && b == '&'.toNat && t.head? == some '@'.toNat then
      extent shifts (k - 2) (taken + 3) (t.drop 2)
    else extent shifts k (taken + 1) t
termination_by room

def set? (c : SwitchedCode) (isWide : Bool) (last : Nat) : Option Repertoire :=
  let known := if isWide then c.wide else ('B', .ascii) :: c.narrow
  known.lookup (Char.ofNat last)

/-- What an escape sequence asks for: a slot by its introducer, and a set. The sequence is given
without its first byte; two bytes may come before one that chooses JIS X 0208. -/
def designation? (c : SwitchedCode) (s : State) (r : List Nat) : Option State :=
  match r.map Char.ofNat with
  | ['$', x] => (c.set? true x.toNat).map fun t => { s with first := t }
  | ['$', '(', x] => (c.set? true x.toNat).map fun t => { s with first := t }
  | ['$', ')', x] => (c.set? true x.toNat).map fun t => { s with second := t }
  | ['(', x] => (c.set? false x.toNat).map fun t => { s with first := t }
  | [')', x] => (c.set? false x.toNat).map fun t => { s with second := t }
  | ['.', x] =>
    if c.lifts then (c.set? false x.toNat).map fun t => { s with third := t } else none
  | [_, _, '\x1b', '$', 'B'] =>
    if c.shifts then none else (c.set? true 'B'.toNat).map fun t => { s with first := t }
  | _ => none

def afterEscape (c : SwitchedCode) (s : State) (r : List Nat) : Reading × State :=
  match r with
  | [] => (.cut r, s)
  | b :: t =>
    if isIntroducer b then
      match extent c.shifts 15 1 r with
      | .cut => (.cut r, s)
      | .tooLong => (.fault 0, s)
      | .length n =>
        match c.designation? s (r.take (n - 1)) with
        | some u => (.text [] (n - 1), u)
        | none => (.fault (n - 1), s)
    else if c.lifts && b == 'N'.toNat then
      match t with
      | [] => (.cut r, s)
      | x :: _ =>
        match s.third with
        | .ascii | .western | .greek =>
          match s.third.lifted? x with
          | some x => (.text [x] 2, s)
          | none => (.fault 2, s)
        | _ => (.refused, s)
    else (.byte escape, { s with passing := true })

def graphic (s : Repertoire) (b : Nat) (r : List Nat) : Reading :=
  if s.isWide then
    match r with
    | [] => .cut r
    | c :: _ =>
      match s.double? b c with
      | some cs => .text cs 1
      | none => .fault 1
  else .ofChar? (s.single? b) 0

def step (c : SwitchedCode) (s : State) (b : Nat) (r : List Nat) : Reading × State :=
  if s.passing then (.byte b, { s with passing := !isLast b })
  else if b = escape then c.afterEscape s r
  else if b = 0x0F ∧ c.shifts then (.text [] 0, { s with shifted := false })
  else if b = 0x0E ∧ c.shifts then (.text [] 0, { s with shifted := true })
  else if b = 0x0A then (.byte b, { s with shifted := false })
  else if b < 0x20 then (.byte b, s)
  else if 0x80 ≤ b then (.fault 0, s)
  else (graphic (if s.shifted then s.second else s.first) b r, s)

def machine (c : SwitchedCode) : Machine State where
  start := start
  step := c.step
  finish _ := []

def koreanCode : SwitchedCode where
  narrow := []
  wide := [('C', .korean)]
  shifts := true
  lifts := false

def japaneseCode : SwitchedCode where
  narrow := [('J', .roman)]
  wide := [('B', .jis0208), ('@', .jis0208)]
  shifts := false
  lifts := false

def japaneseCode1 : SwitchedCode :=
  { japaneseCode with wide := ('D', .jis0212) :: japaneseCode.wide }

def japaneseCode2 : SwitchedCode where
  narrow := [('J', .roman), ('A', .western), ('F', .greek)]
  wide := [('C', .korean), ('A', .simplified)] ++ japaneseCode1.wide
  shifts := false
  lifts := true

def japaneseCode3 : SwitchedCode where
  narrow := []
  wide := [('B', .jis0208), ('O', .firstPlane .first), ('P', .secondPlane)]
  shifts := false
  lifts := false

def japaneseCode2004 : SwitchedCode where
  narrow := []
  wide := [('B', .jis0208), ('Q', .firstPlane .second), ('P', .secondPlane)]
  shifts := false
  lifts := false

def japaneseCodeExtended : SwitchedCode :=
  { japaneseCode1 with narrow := [('J', .roman), ('I', .katakana)] }

end SwitchedCode

end CrateDocs.Charset
