import CrateDocs.Text.Case
import CrateDocs.Selector.Frame

/-!
Languages: what language an element is in, and whether a language range covers it. Ranges and
languages are subtags with hyphens between them; a star in a range stands for any subtag.
-/

namespace CrateDocs.Selector.Language

open Markup

def dropStars : List Char → List Char
  | '*' :: '-' :: r => dropStars r
  | ['*'] => []
  | ['*', '\n'] => ['\n']
  | s => s

theorem length_dropStars_le (s : List Char) : (dropStars s).length ≤ s.length := by
  fun_induction dropStars s <;> simp_all
  omega

def dropWildcards (s : List Char) : List Char :=
  match s with
  | [] => []
  | ['-', '*'] => ['-']
  | ['-', '*', '\n'] => ['-', '\n']
  | '-' :: '*' :: '-' :: r =>
    have := length_dropStars_le r
    '-' :: dropWildcards (dropStars r)
  | c :: r => c :: dropWildcards r
termination_by s.length

def subtags (s : List Char) : List (List Char) := Text.splitChar '-' (Text.lower s)

/-- Whether the further subtags of a range are met by those of a language, in order. Subtags of more
than one letter may be passed over. -/
def covers : List (List Char) → List (List Char) → Bool
  | [], _ => true
  | _ :: _, [] => false
  | r :: rs, s :: ss =>
    if r.isEmpty then false
    else if s = r then covers rs ss
    else if s.length = 1 then false
    else covers (r :: rs) ss

def matchesRange (range language : String) : Bool :=
  match subtags (dropWildcards range.toList), subtags language.toList with
  | [[]], [[]] => true
  | r :: rs, s :: ss =>
    (if r = ['*'] then !(s.isEmpty && ss.isEmpty) else r == s) && covers rs ss
  | _, _ => false

/-- The language that an element or one around it has. An empty one counts only if there is no other
one. -/
def declared? (p : Place) : Option String :=
  let found := (p :: ancestors true p).filterMap fun q => attribute? "lang" q.node
  match found.find? fun l => !l.isEmpty with
  | some l => some l
  | none => found.head?

def origin (p : Place) : Place := (ancestors true p).getLast?.getD p

def head? (p : Place) : Option Place := do
  let html ← (children true p).find? fun q => nameOf q.node == "html"
  (children true html).find? fun q => nameOf q.node == "head"

def ofMeta? (n : Node) : Option String := do
  let key ← attribute? "http-equiv" n
  let value ← attribute? "content" n
  if nameOf n == "meta" && asciiLower key == "content-language" && !value.isEmpty then some value
  else none

end CrateDocs.Selector.Language
