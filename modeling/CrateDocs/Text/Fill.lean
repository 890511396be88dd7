import CrateDocs.Text.Blank
import CrateDocs.Text.Digit
import CrateDocs.Text.Letter

/-!
Filling lines of a given width with a paragraph. A line may end between two words, and behind a
hyphen within one; a part that is longer than a line is cut where the line is full. The main
statement says that no cut is empty as long as there is room.
-/

namespace CrateDocs.Text.Fill

def isWordLetter (c : Char) : Bool := c == '_' || (isAlphanumeric c && !isDecimal c)

/-- Whether two letters end what comes before a hyphen, which is given backwards. Another hyphen may
stand between them. -/
def endsInLetters : List Char → Bool
  | a :: b :: r =>
    isWordLetter a && (isWordLetter b || (b == '-' && (r.head?.any isWordLetter)))
  | _ => false

def startsWithLetters : List Char → Bool
  | a :: b :: r =>
    isWordLetter a && (isWordLetter b || (b == '-' && (r.head?.any isWordLetter)))
  | _ => false

/-- The parts of a word, each but the last one with the hyphen that ends it. `before` is what has
been read of the word and `part` what has been read of the part, backwards. -/
def partsOfWord (before part : List Char) : List Char → List (List Char)
  | [] => [part.reverse]
  | c :: r =>
    if c = '-' ∧ !part.isEmpty ∧ endsInLetters before ∧ startsWithLetters r then
      (c :: part).reverse :: partsOfWord (c :: before) [] r
    else partsOfWord (c :: before) (c :: part) r

def parts (s : List Char) : List (List Char) :=
  (((words s).map (partsOfWord [] [])).intersperse [[' ']]).flatten

/-- How much of a part goes to a line with some room: all up to the last hyphen in it that another
sign comes before, or as much as there is room for. -/
def cutSize (room : Nat) (part : List Char) : Nat :=
  let head := part.take room
  let tail := head.reverse.takeWhile fun c => c != '-'
  let upTo := head.length - tail.length
  if (head.take (upTo - 1)).any fun c => c != '-' then upTo else room

theorem cutSize_pos {room : Nat} {part : List Char} (h : 0 < room) : 0 < cutSize room part := by
  simp only [cutSize]
  split
  · rename_i h'
    by_cases hz : (List.take room part).length -
        (List.takeWhile (fun c => c != '-') (List.take room part).reverse).length = 0
    · rw [hz] at h'
      simp at h'
    · omega
  · exact h

def chop (width : Nat) (part : List Char) : List (List Char) :=
  if _h : part.length ≤ width ∨ width = 0 then [part]
  else part.take (cutSize width part) :: chop width (part.drop (cutSize width part))
termination_by part.length
decreasing_by
  have : 0 < cutSize width part := cutSize_pos (by omega)
  simp only [List.length_drop]
  omega

/-- A line that is given by its parts, backwards. A blank at its end does not count. -/
def ended (line : List (List Char)) : List (List Char) :=
  let kept := match line with
    | [] => []
    | p :: ps => if p.all isBlank then ps else line
  if kept.isEmpty then [] else [kept.reverse.flatten]

/-- Fills lines with parts, from a line on that has some already. A blank does not start a line. -/
def fillFrom (width : Nat) (line : List (List Char)) : List (List Char) → List (List Char)
  | [] => ended line
  | p :: ps =>
    let used := line.flatten.length
    if used + p.length ≤ width then fillFrom width (p :: line) ps
    else if p.length ≤ width then
      ended line ++ fillFrom width (if p.all isBlank then [] else [p]) ps
    else
      let size := cutSize (width - used) p
      let pieces := chop width (p.drop size)
      ended (p.take size :: line) ++ pieces.dropLast ++
        fillFrom width pieces.getLast?.toList ps

def lines (width : Nat) (s : String) : List String :=
  (fillFrom width [] (parts s.toList)).map String.ofList

end CrateDocs.Text.Fill
