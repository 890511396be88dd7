namespace CrateDocs.Text

structure Cursor where
  rest : List Char
  offset : Nat

namespace Cursor

def advance (c : Cursor) (n : Nat) : Cursor := ⟨c.rest.drop n, c.offset + n⟩

def startsWith (c : Cursor) (word : String) : Bool := word.toList.isPrefixOf c.rest

def run (c : Cursor) (p : Char → Bool) : List Char := c.rest.takeWhile p

def skip (c : Cursor) (p : Char → Bool) : Cursor := c.advance (c.run p).length

def before (c : Cursor) (rest : List Char) : Cursor := c.advance (c.rest.length - rest.length)

end Cursor

structure Position where
  offset : Nat
  line : Nat
  column : Nat
  deriving DecidableEq

def positionIn (s : List Char) (offset : Nat) : Position :=
  let before := s.take offset
  ⟨offset, before.count '\n' + 1, (before.reverse.takeWhile (· ≠ '\n')).length + 1⟩

end CrateDocs.Text
