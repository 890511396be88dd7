import CrateDocs.Order
import CrateDocs.Text.Blank
import CrateDocs.Text.Case
import CrateDocs.Text.Compose
import CrateDocs.Text.Letter
import CrateDocs.Text.Split

/-!
How similar two names are. Names are compared as words in lower case; the measure is the share of
characters that the longest common subsequence leaves out.
-/

namespace CrateDocs.Suggest

/-- Letters and digits of the fourteenth version of the character set. Names are compared by those
of the earlier versions. -/
def recent : Text.CharSet where
  runs := [
    (0x870, 0x887), (0x889, 0x88E), (0x8B5, 0x8B5), (0x8C8, 0x8C9), (0xC5D, 0xC5D), (0xCDD, 0xCDD),
    (0x170D, 0x170D), (0x171F, 0x171F), (0x1B4C, 0x1B4C), (0x2C2F, 0x2C2F), (0x2C5F, 0x2C5F),
    (0x9FFD, 0x9FFF), (0xA7C0, 0xA7C1), (0xA7D0, 0xA7D1), (0xA7D3, 0xA7D3), (0xA7D5, 0xA7D9),
    (0xA7F2, 0xA7F4), (0x10570, 0x1057A), (0x1057C, 0x1058A), (0x1058C, 0x10592),
    (0x10594, 0x10595), (0x10597, 0x105A1), (0x105A3, 0x105B1), (0x105B3, 0x105B9),
    (0x105BB, 0x105BC), (0x10780, 0x10785), (0x10787, 0x107B0), (0x107B2, 0x107BA),
    (0x10F70, 0x10F81), (0x11071, 0x11072), (0x11075, 0x11075), (0x11740, 0x11746),
    (0x11AB0, 0x11ABF), (0x12F90, 0x12FF0), (0x16A70, 0x16ABE), (0x16AC0, 0x16AC9),
    (0x1AFF0, 0x1AFF3), (0x1AFF5, 0x1AFFB), (0x1AFFD, 0x1AFFE), (0x1B11F, 0x1B122),
    (0x1DF00, 0x1DF1E), (0x1E290, 0x1E2AD), (0x1E7E0, 0x1E7E6), (0x1E7E8, 0x1E7EB),
    (0x1E7ED, 0x1E7EE), (0x1E7F0, 0x1E7FE), (0x2A6DE, 0x2A6DF), (0x2B735, 0x2B738)]

def isWordChar (c : Char) : Bool := Text.isAlphanumeric c && !recent.contains c

/-- A name as its words: composed, with a space for everything that is neither letter nor digit, and
in lower case. -/
def normalize (s : List Char) : List Char :=
  Text.trim ((Text.Compose.compose s).map fun c => if isWordChar c then Text.lowerChar c else ' ')

/-- The next row of the table of common subsequences, for one more character. `corner` and `left`
are the entries before those of the row above and of this row. -/
def nextRow (c : Char) (corner left : Nat) : List Char → List Nat → List Nat
  | x :: xs, above :: row =>
    let v := if x = c then corner + 1 else max left above
    v :: nextRow c above v xs row
  | _, _ => []

def commonLength (a b : List Char) : Nat :=
  ((a.foldl (fun row c => nextRow c 0 0 b row) (b.map fun _ => 0)).getLast?).getD 0

def distance (a b : List Char) : Nat := a.length + b.length - 2 * commonLength a b

/-- The percentage of characters in common, for a distance between texts of this length together. -/
def percent (distance length : Nat) : Float :=
  if length = 0 then 100 else (1.0 - Float.ofNat distance / Float.ofNat length) * 100

def ratio (a b : List Char) : Float := percent (distance a b) (a.length + b.length)

def joined (words : List String) : List Char := (" ".intercalate words).toList

def sortWords (words : List String) : List String :=
  words.mergeSort fun a b => decide (a ≤ b)

def wordsIn (s : List Char) : List String := sortWords ((Text.words s).map String.ofList)

def sortedRatio (a b : List Char) : Float := ratio (joined (wordsIn a)) (joined (wordsIn b))

def percentOff (distance length : Nat) : Float :=
  if length = 0 then 100 else 100 - 100 * Float.ofNat distance / Float.ofNat length

def largest (xs : List Float) : Float := xs.foldl (fun m x => if m < x then x else m) 0

/-- The similarity of the sets of words: that of the words that are not in common, each side behind
the common words, or that of a side to the common words alone. -/
def setRatio (a b : List Char) : Float :=
  let as := dropRepeats (wordsIn a)
  let bs := dropRepeats (wordsIn b)
  if as.isEmpty || bs.isEmpty then 0
  else
    let common := as.filter bs.contains
    let onlyA := as.filter fun w => !bs.contains w
    let onlyB := bs.filter fun w => !as.contains w
    if !common.isEmpty && (onlyA.isEmpty || onlyB.isEmpty) then 100
    else
      let restA := joined onlyA
      let restB := joined onlyB
      let shared := (joined common).length
      let gap := if shared = 0 then 0 else 1
      let lengthA := shared + gap + restA.length
      let lengthB := shared + gap + restB.length
      let whole := percentOff (distance restA restB) (lengthA + lengthB)
      if shared = 0 then largest [whole]
      else largest [whole, percentOff (gap + restA.length) (shared + lengthA),
        percentOff (gap + restB.length) (shared + lengthB)]

def suffixes : List Char → List (List Char)
  | [] => [[]]
  | c :: r => (c :: r) :: suffixes r

/-- The windows of a length, with those that the ends of the text cut off. -/
def windows (n : Nat) (s : List Char) : List (List Char) :=
  (List.range n).map s.take ++ (suffixes s).map fun t => t.take n

def windowRatio (short long : List Char) : Float :=
  largest ((windows short.length long).map (ratio short))

def partRatio (a b : List Char) : Float :=
  if a.isEmpty || b.isEmpty then (if a.isEmpty && b.isEmpty then 100 else 0)
  else if a.length < b.length then windowRatio a b
  else if b.length < a.length then windowRatio b a
  else largest [windowRatio a b, windowRatio b a]

end CrateDocs.Suggest
