import CrateDocs.Text.Blank
import CrateDocs.Text.Case
import CrateDocs.Markup.Token
import CrateDocs.Markup.CharRef

/-!
Tags. The scan of a start tag is lenient: blanks and slashes may stand between attributes, an equals
sign may be repeated, and an attribute may follow a quote directly.
-/

namespace CrateDocs.Markup.Tag

def isLetter (c : Char) : Bool := c.isAlpha

def endsName (c : Char) : Bool :=
  c == '\t' || c == '\n' || c == '\r' || c == '\x0c' || c == ' ' || c == '/' || c == '>' ||
    c == '\x00'

def name? (s : List Char) : Option (List Char × List Char) :=
  match s with
  | c :: r =>
    if isLetter c then
      some (c :: r.takeWhile (!endsName ·), r.dropWhile (!endsName ·))
    else none
  | [] => none

/-- A text that has been read up to some place: the character before it, the rest, and the number of
characters read. -/
structure Place where
  before : Char
  rest : List Char
  offset : Nat

namespace Place

def skip (p : Place) (n : Nat) : Place :=
  ⟨((p.rest.take n).getLast?).getD p.before, p.rest.drop n, p.offset + n⟩

@[simp] theorem rest_skip (p : Place) (n : Nat) : (p.skip n).rest = p.rest.drop n := rfl

def skipWhile (f : Char → Bool) (p : Place) : Place := p.skip (p.rest.takeWhile f).length

/-- The number of blanks and slashes, without a slash that stands before the end of the tag. -/
def gapLength : List Char → Nat
  | [] => 0
  | '/' :: '>' :: _ => 0
  | c :: r => if Text.isBlank c || c == '/' then gapLength r + 1 else 0

def skipGap (p : Place) : Place := p.skip (gapLength p.rest)

theorem length_rest_skipGap_le (p : Place) : p.skipGap.rest.length ≤ p.rest.length := by
  simp [skipGap]

end Place

def quoted? (quote : Char) (s : List Char) : Option (List Char × Nat) :=
  let v := s.takeWhile (· ≠ quote)
  if (s.drop v.length).isEmpty then none else some (v, v.length + 2)

/-- The value after an equals sign and the number of characters it takes, given the number of the
equals signs, of the blanks after them, and what follows. A quote that is never closed starts no
value: then the value is empty, or starts at the last of several equals signs. -/
def valueAfter (signs blanks : Nat) (s : List Char) : Option (List Char × Nat) :=
  let bare (s : List Char) := s.takeWhile fun c => !(Text.isBlank c || c == '>')
  let unclosed : Option (List Char × Nat) :=
    if 0 < blanks then some ([], signs + (blanks - 1))
    else if 1 < signs then some ('=' :: bare s, signs + (bare s).length)
    else none
  match s with
  | c :: r =>
    if c = '\'' ∨ c = '"' then
      match quoted? c r with
      | some (v, n) => some (v, signs + blanks + n)
      | none => unclosed
    else some (bare s, signs + blanks + (bare s).length)
  | [] => some ([], signs + blanks)

def value? (s : List Char) : Option (List Char × Nat) :=
  let gap := (s.takeWhile Text.isBlank).length
  let signs := ((s.drop gap).takeWhile (· == '=')).length
  if signs = 0 then none
  else
    let after := s.drop (gap + signs)
    let blanks := (after.takeWhile Text.isBlank).length
    (valueAfter signs blanks (after.drop blanks)).map fun p => (p.1, gap + p.2)

def precedesAttribute (c : Char) : Bool := c == '\'' || c == '"' || c == '/' || Text.isBlank c

def attributeNameLength : List Char → Nat
  | [] => 0
  | c :: r =>
    if Text.isBlank c || c == '/' || c == '>' then 0
    else (r.takeWhile fun d => !(Text.isBlank d || d == '/' || d == '=' || d == '>')).length + 1

theorem attributeNameLength_le (s : List Char) : attributeNameLength s ≤ s.length := by
  cases s with
  | nil => exact Nat.le_refl _
  | cons c r =>
    simp only [attributeNameLength]
    split
    · exact Nat.zero_le _
    · exact Nat.succ_le_succ (List.takeWhile_sublist _).length_le

def attribute? (p : Place) : Option (List Char × Option (List Char) × Place) :=
  let n := attributeNameLength p.rest
  if precedesAttribute p.before && 0 < n then
    let q := p.skip n
    match value? q.rest with
    | some (v, m) => some (p.rest.take n, some v, (q.skip m).skipGap)
    | none => some (p.rest.take n, none, q.skipGap)
  else none

theorem length_rest_lt_of_attribute? {p q : Place} {name : List Char} {value : Option (List Char)}
    (h : attribute? p = some (name, value, q)) : q.rest.length < p.rest.length := by
  have hle := attributeNameLength_le p.rest
  simp only [attribute?] at h
  split at h
  next hn =>
    have hpos : 0 < attributeNameLength p.rest := by simp_all
    split at h <;> cases h <;>
      refine Nat.lt_of_le_of_lt (Place.length_rest_skipGap_le _) ?_ <;> simp <;> omega
  next => cases h

def attributes (p : Place) : List (List Char × Option (List Char)) × Place :=
  match _h : attribute? p with
  | some (n, v, q) =>
    let (more, e) := attributes q
    ((n, v) :: more, e)
  | none => ([], p)
termination_by p.rest.length
decreasing_by exact length_rest_lt_of_attribute? ‹_›

inductive Ending where
  | unfinished
  | broken (size : Nat) (attributes : List (List Char × Option (List Char)))
  | closed (size : Nat) (selfClosed : Bool) (attributes : List (List Char × Option (List Char)))

/-- Sets an attribute. A repeated attribute keeps its first place and its last value. -/
def setAttribute (a : Attribute) : List Attribute → List Attribute
  | [] => [a]
  | b :: r => if b.name = a.name then a :: r else b :: setAttribute a r

def ofPairs (pairs : List (List Char × Option (List Char))) : Except Fault (List Attribute) :=
  pairs.foldlM (fun as p => do
    let value ← CharRef.expandAttribute (p.2.getD [])
    .ok (setAttribute ⟨String.ofList (Text.lower p.1), String.ofList value⟩ as)) []

def ending (before : Char) (s : List Char) : Ending :=
  let start : Place := ⟨before, s, 0⟩
  let first := start.skipWhile fun c => Text.isBlank c || c == '/'
  let (pairs, last) := attributes first
  let last := if pairs.isEmpty then first else last
  let size := last.offset
  match last.rest with
  | '>' :: _ => .closed (size + 1) (pairs.isEmpty && last.before == '/') pairs
  | '/' :: '>' :: _ => .closed (size + 2) true pairs
  | [] => .unfinished
  | c :: _ => if isLetter c || c == '=' || c == '/' then .unfinished else .broken size pairs

end CrateDocs.Markup.Tag
