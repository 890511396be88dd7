import CrateDocs.Selector.Fault
import CrateDocs.Text.Blank
import CrateDocs.Text.Digit
import CrateDocs.Text.Surrogate

/-!
The smallest parts of written selectors: blanks and comments, names, and texts in quotes. Names and
texts may hold escapes: a backslash before up to six hexadecimal digits and a blank, or before any
other character.
-/

namespace CrateDocs.Selector

def isNewline (c : Char) : Bool := c == '\n' || c == '\r' || c == '\x0c'

def afterBlank? : List Char → Option (List Char)
  | '\r' :: '\n' :: r => some r
  | c :: r => if Text.isMarkupBlank c then some r else none
  | [] => none

def afterComment? : List Char → Option (List Char)
  | [] => none
  | '*' :: '/' :: r => some r
  | _ :: r => afterComment? r

def afterGap? : List Char → Option (List Char)
  | '/' :: '*' :: r => afterComment? r
  | s => afterBlank? s

theorem length_of_afterBlank? {s t : List Char} (h : afterBlank? s = some t) :
    t.length < s.length := by
  unfold afterBlank? at h
  split at h
  · simp only [Option.some.injEq] at h
    subst h
    simp only [List.length_cons]
    omega
  · split at h
    · simp only [Option.some.injEq] at h
      subst h
      simp
    · cases h
  · cases h

theorem length_of_afterComment? {s t : List Char} (h : afterComment? s = some t) :
    t.length < s.length := by
  fun_induction afterComment? s with
  | case1 => cases h
  | case2 r =>
    simp only [Option.some.injEq] at h
    subst h
    simp only [List.length_cons]
    omega
  | case3 c r _ ih =>
    have := ih h
    simp only [List.length_cons]
    omega

theorem length_of_afterGap? {s t : List Char} (h : afterGap? s = some t) :
    t.length < s.length := by
  unfold afterGap? at h
  split at h
  · have := length_of_afterComment? h
    simp only [List.length_cons]
    omega
  · exact length_of_afterBlank? h

def skip (s : List Char) : List Char :=
  match h : afterGap? s with
  | some r =>
    have := length_of_afterGap? h
    skip r
  | none => s
termination_by s.length

def skipComments (s : List Char) : List Char :=
  match h : afterGap? s with
  | some r =>
    have := length_of_afterGap? h
    if s.head? = some '/' then skipComments r else s
  | none => s
termination_by s.length

def dropped (s rest : List Char) : List Char := s.take (s.length - rest.length)

def isNameStart (c : Char) : Bool := c.isAlpha || c == '_' || decide (0xA0 ≤ c.toNat)

def isNameChar (c : Char) : Bool := isNameStart c || c.isDigit || c == '-'

def hexRun (isHex : Char → Bool) (s : List Char) : List Char := (s.takeWhile isHex).take 6

theorem length_getD_afterBlank?_le (s : List Char) :
    ((afterBlank? s).getD s).length ≤ s.length := by
  cases h : afterBlank? s with
  | none => simp
  | some t => simpa using Nat.le_of_lt (length_of_afterBlank? h)

/-- The text after the digits of an escape, and after the blank that may end them. -/
def afterHex (isHex : Char → Bool) (s : List Char) : List Char :=
  let t := s.drop (hexRun isHex s).length
  (afterBlank? t).getD t

theorem length_afterHex_le (isHex : Char → Bool) (s : List Char) :
    (afterHex isHex s).length ≤ s.length := by
  have := length_getD_afterBlank?_le (s.drop (hexRun isHex s).length)
  simp only [List.length_drop] at this
  simp only [afterHex]
  omega

/-- The text after an escape, given what counts as a hexadecimal digit and what follows the
backslash. A backslash before the end of the text, or before its last line feed, is an escape by
itself. -/
def afterBackslash? (isHex : Char → Bool) (s : List Char) : Option (List Char) :=
  if (hexRun isHex s).isEmpty then
    match s with
    | [] => some []
    | ['\n'] => some ['\n']
    | c :: r => if isNewline c then none else some r
  else some (afterHex isHex s)

theorem length_of_afterBackslash? {isHex : Char → Bool} {s t : List Char}
    (h : afterBackslash? isHex s = some t) : t.length ≤ s.length := by
  unfold afterBackslash? at h
  split at h
  · split at h
    · simp_all
    · simp_all
    · split at h
      · cases h
      · simp only [Option.some.injEq] at h
        subst h
        simp
  · simp only [Option.some.injEq] at h
    subst h
    exact length_afterHex_le isHex s

def afterNameChars (isHex : Char → Bool) (s : List Char) : List Char :=
  match s with
  | [] => []
  | c :: r =>
    if c = '\\' then
      match h : afterBackslash? isHex r with
      | some t =>
        have := length_of_afterBackslash? h
        afterNameChars isHex t
      | none => c :: r
    else if isNameChar c then afterNameChars isHex r
    else c :: r
termination_by s.length
decreasing_by all_goals simp only [List.length_cons]; omega

def afterNameStart? (isHex : Char → Bool) : List Char → Option (List Char)
  | [] => none
  | c :: r =>
    if c = '\\' then afterBackslash? isHex r
    else if isNameStart c then some r
    else none

/-- The text after a name: it starts with a letter or an escape, which one hyphen may precede, or
with two hyphens. -/
def afterName? (isHex : Char → Bool) (s : List Char) : Option (List Char) :=
  (match s with
    | '-' :: '-' :: r => some r
    | '-' :: r => afterNameStart? isHex r
    | r => afterNameStart? isHex r).map (afterNameChars isHex)

def name? (s : List Char) : Option (List Char × List Char) :=
  (afterName? Text.isHexDigit s).map fun r => (dropped s r, r)

def quoted? (quote : Char) : List Char → Option (List Char × List Char)
  | [] => none
  | '\\' :: '\r' :: '\n' :: r =>
    (quoted? quote r).map fun p => ('\\' :: '\r' :: '\n' :: p.1, p.2)
  | '\\' :: c :: r => (quoted? quote r).map fun p => ('\\' :: c :: p.1, p.2)
  | c :: r =>
    if c = quote then some ([], r)
    else if isNewline c || c == '\\' then none
    else (quoted? quote r).map fun p => (c :: p.1, p.2)

def numbered (n : Nat) : Except Fault Char :=
  if n = 0 then .ok '\ufffd'
  else
    match Text.Surrogate.char? n with
    | some c => .ok c
    | none => .error .noSuchChar

/-- What an escape stands for, by what follows its backslash, and the text after it. In quotes an
escaped line break vanishes, unless it is a line feed that ends the text. -/
def escaped (inQuotes : Bool) (s : List Char) : Except Fault (List Char × List Char) :=
  let ds := hexRun Text.isHexDigit s
  if ds.isEmpty then
    match s with
    | [] => .ok (['\ufffd'], [])
    | ['\n'] => .ok (['\ufffd'], ['\n'])
    | c :: r =>
      if !isNewline c then .ok ([c], r)
      else if inQuotes then .ok ([], (afterBlank? (c :: r)).getD (c :: r))
      else .ok (['\\'], c :: r)
  else (numbered (Text.numberIn 16 ds)).map fun c => ([c], afterHex Text.isHexDigit s)

theorem length_of_escaped {inQuotes : Bool} {s cs t : List Char}
    (h : escaped inQuotes s = .ok (cs, t)) : t.length ≤ s.length := by
  unfold escaped at h
  simp only at h
  split at h
  · split at h
    · simp_all
    · simp_all
    · rename_i c r _ _
      have := length_getD_afterBlank?_le (c :: r)
      split at h
      · simp only [Except.ok.injEq, Prod.mk.injEq] at h
        obtain ⟨_, rfl⟩ := h
        simp
      · split at h
        · simp only [Except.ok.injEq, Prod.mk.injEq] at h
          obtain ⟨_, rfl⟩ := h
          exact this
        · simp only [Except.ok.injEq, Prod.mk.injEq] at h
          obtain ⟨_, rfl⟩ := h
          exact Nat.le_refl _
  · cases hn : numbered (Text.numberIn 16 (hexRun Text.isHexDigit s)) with
    | error f =>
      rw [hn] at h
      cases h
    | ok c =>
      rw [hn] at h
      simp only [Except.map, Except.ok.injEq, Prod.mk.injEq] at h
      obtain ⟨_, rfl⟩ := h
      exact length_afterHex_le _ s

def unescape (inQuotes : Bool) (s : List Char) : Except Fault (List Char) :=
  match s with
  | [] => .ok []
  | c :: r =>
    if c = '\\' then
      match h : escaped inQuotes r with
      | .error f => .error f
      | .ok (cs, t) =>
        have := length_of_escaped h
        (unescape inQuotes t).map (cs ++ ·)
    else (unescape inQuotes r).map (c :: ·)
termination_by s.length
decreasing_by all_goals simp only [List.length_cons]; omega

inductive Written where
  | quoted (s : List Char)
  | bare (s : List Char)

def Written.read : Written → Except Fault (List Char)
  | quoted s => unescape true s
  | bare s => unescape false s

def value? (isHex : Char → Bool) (s : List Char) : Option (Written × List Char) :=
  match s with
  | [] => none
  | c :: r =>
    if c = '"' ∨ c = '\'' then (quoted? c r).map fun p => (.quoted p.1, p.2)
    else (afterName? isHex s).map fun t => (.bare (dropped s t), t)

end CrateDocs.Selector
