import CrateDocs.Text.Blank
import CrateDocs.Text.Split
import CrateDocs.Text.Width

/-!
Wrapping text to lines. A word stays with the blanks after it. A word that does not fit goes to the
next line; one that fits on no line starts a line and is cut at the width.
-/

namespace CrateDocs.View

/-- A character of an output line, with the number of the styled run that it belongs to, or zero. -/
structure Glyph where
  char : Char
  run : Nat
  deriving DecidableEq

def charsOf (gs : List Glyph) : List Char := gs.map Glyph.char

def glyphs (run : Nat) (s : List Char) : List Glyph := s.map fun c => ⟨c, run⟩

def isDropped (c : Char) : Bool :=
  c == '\x07' || c == '\x08' || c == '\x0b' || c == '\x0c' || c == '\r'

def dropControls (s : List Char) : List Char := s.filter fun c => !isDropped c

/-- A word with the blanks that follow a list of runs of blanks and of other characters. -/
def joinRuns : List (List Char) → List (List Char)
  | w :: b :: r => (w ++ b) :: joinRuns r
  | ws => ws

/-- The words of a line. Blanks before the first word belong to it; blanks alone are no word. -/
def words (s : List Char) : List (List Char) :=
  match s.splitBy fun a b => Text.isBlank a == Text.isBlank b with
  | b :: r =>
    if b.all Text.isBlank then
      match joinRuns r with
      | w :: ws => (b ++ w) :: ws
      | [] => []
    else joinRuns (b :: r)
  | [] => []

/-- Filling lines: the place in the text, the cells that are used on the line, and the places where
lines end, last first. -/
structure Fill where
  start : Nat
  used : Nat
  breaks : List Nat

def breakAt (n : Nat) (breaks : List Nat) : List Nat := if n = 0 then breaks else n :: breaks

def pieceStarts (start : Nat) (breaks : List Nat) : List Nat → List Nat
  | [] => breaks
  | n :: r => pieceStarts (start + n) (breakAt start breaks) r

def place (cells : Nat) (f : Fill) (word : List Char) : Fill :=
  let need := Text.width (Text.trimEnd word)
  let next := f.start + word.length
  if f.used + need ≤ cells then ⟨next, f.used + Text.width word, f.breaks⟩
  else if cells < need then
    let ns := Text.pieceLengths cells 0 0 (Text.graphemes word)
    let last := word.drop (word.length - (ns.getLast?.getD 0))
    ⟨next, Text.width last, pieceStarts f.start f.breaks ns⟩
  else if f.used ≠ 0 ∧ f.start ≠ 0 then ⟨next, Text.width word, f.start :: f.breaks⟩
  else ⟨next, f.used, f.breaks⟩

def breaks (cells : Nat) (s : List Char) : List Nat :=
  ((words s).foldl (place cells) ⟨0, 0, []⟩).breaks.reverse

def cutAt (start : Nat) : List Nat → List α → List (List α)
  | [], l => [l]
  | n :: r, l => l.take (n - start) :: cutAt n r (l.drop (n - start))

def trimExcess (cells : Nat) (gs : List Glyph) : List Glyph :=
  let blanks := (gs.reverse.takeWhile fun g => Text.isBlank g.char).length
  gs.take (gs.length - min blanks (gs.length - cells))

def truncate (cells : Nat) (gs : List Glyph) : List Glyph :=
  if Text.width (charsOf gs) ≤ cells then gs
  else
    let (n, cut) := Text.fitting cells (Text.graphemes (charsOf gs))
    let kept := gs.take n
    if cut then kept ++ (gs.drop n).head?.toList.map fun g => { g with char := ' ' } else kept

def tabParts : List Glyph → List (List Glyph)
  | [] => []
  | g :: r =>
    match g.char, tabParts r with
    | '\t', ps => [g] :: ps
    | _, p :: ps => (g :: p) :: ps
    | _, [] => [[g]]

def endsInTab (gs : List Glyph) : Bool := gs.getLast?.any fun g => g.char == '\t'

/-- Fills the parts that end in a tab up to the tab stops. Every styled part is a run of its own. -/
def fillTabs (stop : Nat) (position part : Nat) : List (List Glyph) → List Glyph
  | [] => []
  | p :: r =>
    let shown := p.map fun g =>
      (⟨if g.char = '\t' then ' ' else g.char, if g.run = 0 then 0 else part⟩ : Glyph)
    let ended := position + Text.width (charsOf shown)
    let fill := if endsInTab p then (stop - ended % stop) % stop else 0
    shown ++ List.replicate fill (shown.getLast?.getD ⟨' ', 0⟩) ++
      fillTabs stop (ended + fill) (part + 1) r

def expandTabs (stop : Nat) (gs : List Glyph) : List Glyph :=
  if gs.any fun g => g.char == '\t' then fillTabs stop 0 1 (tabParts gs) else gs

def tabStop : Nat := 8

def fitRuns (cells : Nat) : List (List Glyph) → List Glyph
  | [] => []
  | p :: r =>
    let n := Text.width (charsOf p)
    if n < cells then p ++ fitRuns (cells - n) r else truncate cells p

def crop (cells : Nat) (gs : List Glyph) : List Glyph :=
  let runs := gs.splitBy fun a b => a.run == b.run
  let size := runs.foldl (fun n p => n + Text.width (charsOf p)) 0
  if size ≤ cells then gs else fitRuns cells runs

def wrapLine (cells : Nat) (gs : List Glyph) : List (List Glyph) :=
  let gs := expandTabs tabStop gs
  (cutAt 0 (breaks cells (charsOf gs)) gs).map fun l => truncate cells (trimExcess cells l)

def splitLines : List Glyph → List (List Glyph)
  | [] => [[]]
  | g :: r =>
    if g.char = '\n' then [] :: splitLines r
    else
      match splitLines r with
      | l :: ls => (g :: l) :: ls
      | [] => [[g]]

def wrap (cells : Nat) (gs : List Glyph) : List (List Glyph) :=
  (splitLines gs).flatMap (wrapLine cells)

end CrateDocs.View
