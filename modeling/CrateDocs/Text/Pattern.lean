/-!
Patterns at the start of a text. A pattern tells how many characters it takes, if it fits; of two
patterns that fit the first one counts.
-/

namespace CrateDocs.Text

abbrev Pattern := List Char → Option Nat

namespace Pattern

def literal (w : String) : Pattern := fun s =>
  if w.toList.isPrefixOf s then some w.length else none

def one (p : Char → Bool) : Pattern
  | c :: _ => if p c then some 1 else none
  | [] => none

def run (p : Char → Bool) : Pattern := fun s => some (s.takeWhile p).length

def many (p : Char → Bool) : Pattern := fun s =>
  let n := (s.takeWhile p).length
  if n = 0 then none else some n

def andThen (a b : Pattern) : Pattern := fun s => do
  let m ← a s
  let n ← b (s.drop m)
  return m + n

def sequence (ps : List Pattern) : Pattern := ps.foldr andThen fun _ => some 0

def firstOf (ps : List Pattern) : Pattern := fun s => ps.findSome? fun p => p s

def optional (p : Pattern) : Pattern := fun s => some ((p s).getD 0)

theorem firstOf_cons (p : Pattern) (ps : List Pattern) (s : List Char) :
    firstOf (p :: ps) s = (p s).or (firstOf ps s) := by
  cases h : p s <;> simp [firstOf, h]

end Pattern

end CrateDocs.Text
