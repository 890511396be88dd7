/-!
Tables of numbered characters. A table is written in lines of ninety-four cells, with the
replacement character for a cell that has none; a line may end before its last cells. Where a table
is a square of rows, two bytes of seven bits name the row and the cell in it.
-/

namespace CrateDocs.Charset

/-- `first` is the number of the first cell of the first line. -/
structure Table where
  first : Nat
  lines : Array String

def rowSize : Nat := 94

def missing : Char := '\ufffd'

def Table.char? (t : Table) (n : Nat) : Option Char :=
  if n < t.first then none
  else
    let k := n - t.first
    ((t.lines[k / rowSize]?).bind fun l => l.toList[k % rowSize]?).filter fun c => c != missing

def cell? (row column : Nat) : Option Nat :=
  if 0x21 ≤ row ∧ row ≤ 0x7E ∧ 0x21 ≤ column ∧ column ≤ 0x7E then
    some ((row - 0x21) * rowSize + (column - 0x21))
  else none

def Table.at? (t : Table) (row column : Nat) : Option Char := (cell? row column).bind t.char?

def Table.highAt? (t : Table) (row column : Nat) : Option Char := t.at? (row - 0x80) (column - 0x80)

end CrateDocs.Charset
