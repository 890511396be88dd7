import CrateDocs.Charset.Table

/-!
Pages: character sets with one byte for each character. A page is given by the characters of its two
halves, with the replacement character for a byte that has none. Most pages have ASCII as the lower
half.
-/

namespace CrateDocs.Charset

def ascii : String := String.ofList ((List.range 128).map Char.ofNat)

structure Page where
  lower : String := ascii
  upper : String

def latin : Page where
  upper := String.ofList ((List.range 128).map fun n => Char.ofNat (n + 128))

def plain : Page where
  upper := ""

def Page.cells (p : Page) : Array Char := (p.lower ++ p.upper).toList.toArray

def Page.read (p : Page) (s : List UInt8) : List (Option Char) :=
  let cells := p.cells
  s.map fun b => (cells[b.toNat]?).filter fun c => c != missing

end CrateDocs.Charset
