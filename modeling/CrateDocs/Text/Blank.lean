import CrateDocs.Text.CharSet

/-!
White space in the Unicode sense, together with the four ASCII separator controls, and what is
cut at it: trimmed texts and words.
-/

namespace CrateDocs.Text

def blanks : CharSet where
  runs := [(0x09, 0x0D), (0x1C, 0x20), (0x85, 0x85), (0xA0, 0xA0), (0x1680, 0x1680),
    (0x2000, 0x200A), (0x2028, 0x2029), (0x202F, 0x202F), (0x205F, 0x205F), (0x3000, 0x3000)]

def isBlank (c : Char) : Bool := blanks.contains c

/-- The five characters that markup and style rules count as white space. -/
def isMarkupBlank (c : Char) : Bool :=
  c == ' ' || c == '\n' || c == '\t' || c == '\x0c' || c == '\r'

def trimStart (s : List Char) : List Char := s.dropWhile isBlank

def trimEnd : List Char → List Char
  | [] => []
  | c :: r =>
    match trimEnd r with
    | [] => if isBlank c then [] else [c]
    | d :: t => c :: d :: t

def trim (s : List Char) : List Char := trimEnd (trimStart s)

theorem trimEnd_eq_nil_iff {s : List Char} : trimEnd s = [] ↔ ∀ c ∈ s, isBlank c = true := by
  induction s with
  | nil => simp [trimEnd]
  | cons c r ih =>
    simp only [trimEnd, List.mem_cons, forall_eq_or_imp]
    cases h : trimEnd r with
    | nil =>
      simp only [ite_eq_left_iff, reduceCtorEq, imp_false, Bool.not_eq_true, Bool.not_eq_false]
      exact ⟨fun hc => ⟨hc, ih.1 h⟩, And.left⟩
    | cons d t =>
      simp only [reduceCtorEq, false_iff, not_and]
      intro _ hr
      rw [ih.2 hr] at h
      cases h

def wordsFrom (word : List Char) : List Char → List (List Char)
  | [] => if word.isEmpty then [] else [word.reverse]
  | c :: r =>
    if isBlank c then
      if word.isEmpty then wordsFrom [] r else word.reverse :: wordsFrom [] r
    else wordsFrom (c :: word) r

def words (s : List Char) : List (List Char) := wordsFrom [] s

end CrateDocs.Text
