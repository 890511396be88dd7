import CrateDocs.Text.Lines
import CrateDocs.View.Block
import CrateDocs.View.Lexeme
import CrateDocs.View.Wrap

/-!
Writing blocks as lines of text. Titles and headings have a style of their own on terminals that
show styles; all other text is indented, wrapped to the rest of the line, and free of blanks at the
ends of its lines.
-/

namespace CrateDocs.View

structure Style where
  styled : Bool
  highlighted : Bool
  deriving DecidableEq

def Block.rendition? (st : Style) : Block → Option String
  | .title _ => if st.styled then some "4" else none
  | .heading _ _ => if st.styled then some "1" else none
  | .code _ _ => if st.highlighted then some "49" else none
  | .prose _ _ => none
  | .blank => none

def leastWidth : Nat := 10

def trimmed (gs : List Glyph) : List Glyph :=
  (gs.reverse.dropWhile fun g => Text.isBlank g.char).reverse

/-- The lines of a text that is shifted to the right. A line without content has no indent. -/
def indented (width indent : Nat) (gs : List Glyph) : List (List Glyph) :=
  let cells := max (width - indent) leastWidth
  (wrap cells gs).map fun l =>
    match trimmed (crop cells l) with
    | [] => []
    | t => glyphs 0 (List.replicate indent ' ') ++ t

def codeStop : Nat := 4

/-- Code with spaces for its tabs, given the column of its first character. -/
def expandCode (column : Nat) : List Char → List Char
  | [] => []
  | c :: r =>
    if c = '\t' then
      let fill := codeStop - column % codeStop
      List.replicate fill ' ' ++ expandCode (column + fill) r
    else if c = '\n' ∨ c = '\r' then c :: expandCode 0 r
    else c :: expandCode (column + 1) r

def plainCode (s : List Char) : List Char :=
  match Text.unifyLineEnds (expandCode 0 s) with
  | '\ufeff' :: r => r
  | t => t

def numbered (run : Nat) : List Nat → List Char → List Glyph
  | [], s => glyphs run s
  | n :: ns, s => glyphs run (s.take n) ++ numbered (run + 1) ns (s.drop n)

def highlighted (s : List Char) : List Glyph :=
  numbered 1 (Lexeme.sizes (s ++ ['\n'])) s

def Block.lines (st : Style) (width : Nat) : Block → List (List Glyph)
  | .title s => wrap width (glyphs 1 (dropControls s.toList))
  | .heading n s =>
    wrap width (glyphs 0 (List.replicate n ' ') ++ glyphs 1 (dropControls s.toList))
  | .prose n s => indented width n (glyphs 0 (dropControls (Text.trimEnd s.toList)))
  | .code n s =>
    let code := Text.trimEnd s.toList
    if st.highlighted then
      indented width n ((highlighted (plainCode code)).filter fun g => !isDropped g.char)
    else indented width n (glyphs 0 (dropControls code))
  | .blank => [[]]

def writeRun (rendition : Option String) (gs : List Glyph) : List Char :=
  match rendition with
  | some p =>
    if gs.any fun g => g.run != 0 then
      "\x1b[".toList ++ p.toList ++ 'm' :: charsOf gs ++ "\x1b[0m".toList
    else charsOf gs
  | none => charsOf gs

def writeLine (rendition : Option String) (gs : List Glyph) : List Char :=
  (gs.splitBy fun a b => a.run == b.run).flatMap (writeRun rendition)

def Block.write (st : Style) (width : Nat) (b : Block) : List Char :=
  (b.lines st width).flatMap fun l => writeLine (b.rendition? st) l ++ ['\n']

def write (st : Style) (width : Int) (bs : List Block) : String :=
  if width < 1 then ""
  else String.ofList ((dropFinalBlanks bs).flatMap (Block.write st width.toNat))

end CrateDocs.View
