import CrateDocs.Decimal.Binary
import CrateDocs.Decimal.Numeral
import CrateDocs.Settings.Basic
import CrateDocs.Text.Numeral
import CrateDocs.Toml.Parser

/-!
Reading settings. Values that say clearly what they mean are taken for what they say: words for
truth values, texts and numbers without a fraction for whole numbers. All faults are found, in the
order of the settings, and those of unknown settings come last.

Whole numbers that are written as text. What is no plain numeral is tidied up first: zeros may come
first, underscores may stand between digits, and a point may be followed by zeros.
-/

namespace CrateDocs.Settings.Integer

/-- A plain numeral has a minus sign or none, and no needless zeros. -/
def plain? (s : List Char) : Option Int :=
  let (negative, ds) := match s with
    | '-' :: r => (true, r)
    | r => (false, r)
  let isPlain := ds.all Char.isDigit && (ds == ['0'] || ds.head?.any (· != '0'))
  if isPlain then
    let n : Int := Text.numberIn 10 ds
    some (if negative then -n else n)
  else none

def isTooLong (s : List Char) : Bool :=
  let (sign, r) := s.span (· == '-')
  let ds := r.takeWhile Char.isDigit
  decide (sign.length ≤ 1) && ds.head? != some '0' &&
    decide (Decimal.numeralLimit < sign.length + ds.length)

/-- The text from the first digit that is no zero, or from a minus sign, given the character before.
Before it there are only zeros and underscores. A point ends the zeros, the last of which stays. -/
def dropZerosFrom (before : Char) : List Char → Option (List Char)
  | [] => some [before]
  | c :: r =>
    if c = '0' ∨ c = '_' then dropZerosFrom c r
    else if c.isDigit ∨ c = '-' then some (c :: r)
    else if c = '.' then some (before :: c :: r)
    else none

def dropZeros : List Char → Option (List Char)
  | '0' :: r => dropZerosFrom '0' r
  | c :: r => if c.isDigit || c == '-' then some (c :: r) else none
  | [] => none

def dropFraction (s : List Char) : List Char :=
  match Text.cutFirst ['.'] s with
  | some (a, b) => if !b.isEmpty && b.all (· == '0') then a else s
  | none => s

/-- The text without underscores, if each of them stands between two other characters. -/
def dropUnderscores (s : List Char) : List Char :=
  let parts := Text.splitChar '_' s
  if parts.any List.isEmpty then s else parts.flatten

/-- A plus sign does not go before a minus sign. -/
def dropPlus : List Char → Option (List Char)
  | '+' :: '-' :: _ => none
  | '+' :: r => some r
  | s => some s

def tidy (s : List Char) : Option (List Char) := do
  let s ← dropPlus (Text.Numeral.dropMargins s)
  return dropUnderscores (dropFraction (← dropZeros s))

def ofText (s : List Char) : Except Cause Int :=
  if isTooLong s then .error .integerTooLong
  else
    match plain? s with
    | some n => .ok n
    | none =>
      match (tidy s).filter fun t => !isTooLong t with
      | some t =>
        match plain? t with
        | some n => .ok n
        | none => .error .integerText
      | none => .error .integerText

end CrateDocs.Settings.Integer

namespace CrateDocs.Settings

open Toml (Value Table)

abbrev Check (α : Type) : Type := Checked Fault α

def faulty (name : String) (v : Value) (cause : Cause) : Check α := .fault ⟨name, none, cause, v⟩

def trueWords : List String := ["1", "t", "y", "on", "yes", "true"]

def falseWords : List String := ["0", "f", "n", "no", "off", "false"]

def boolOfText (s : String) : Except Cause Bool :=
  let w := s.toLower
  if falseWords.contains w then .ok false
  else if trueWords.contains w then .ok true
  else .error .boolText

def fitsWord (n : Int) : Bool := decide (-0x8000000000000000 < n) && decide (n < 0x8000000000000000)

def integerOfFloat (x : Float) : Except Cause Int :=
  match Decimal.amount x with
  | .finite m e =>
    let (num, den) := Decimal.scaled 2 m e
    let n : Int := if Decimal.isNegative x then -(num / den : Nat) else (num / den : Nat)
    if num % den ≠ 0 then .error .fraction
    else if fitsWord n then .ok n
    else .error .integerTooLong
  | _ => .error .notFinite

/-- Numbers of more than 64 bits are not even tried. -/
def boolOfInteger (n : Int) : Except Cause Bool :=
  if n = 0 then .ok false
  else if n = 1 then .ok true
  else if fitsWord n || n == -0x8000000000000000 then .error .boolText
  else .error .notBool

def boolOf : Value → Except Cause Bool
  | .bool b => .ok b
  | .text s => boolOfText s
  | .int n => boolOfInteger n
  | .float x =>
    match integerOfFloat x with
    | .ok n => boolOfInteger n
    | .error _ => .error .notBool
  | _ => .error .notBool

def integerOf : Value → Except Cause Int
  | .int n => .ok n
  | .bool b => .ok (if b then 1 else 0)
  | .text s => Integer.ofText s.toList
  | .float x => integerOfFloat x
  | _ => .error .notInteger

def widthOf (v : Value) : Except Cause Int := do
  let n ← integerOf v
  if greatestWidth < n then .error .tooLarge
  else if n < leastWidth then .error .tooSmall
  else .ok n

def stringOf : Value → Except Cause String
  | .text s => .ok s
  | _ => .error .notString

def viewerOf (v : Value) : Except Cause String := do
  let s ← stringOf v
  if viewers.contains s then .ok s else .error (.viewer s)

def setting (name : String) (otherwise : α) (check : Value → Except Cause α) (t : Table) :
    Check α :=
  match Record.get? name t with
  | none => .ok otherwise
  | some v =>
    match check v with
    | .ok a => .ok a
    | .error c => faulty name v c

def option (name : String) (check : Value → Except Cause α) (t : Table) : Check (Option α) :=
  setting name none (fun v => (check v).map some) t

def strings (name : String) (t : Table) : Check (List String) :=
  match Record.get? name t with
  | none => .ok []
  | some (.list vs) =>
    .each (fun (v, i) =>
      match stringOf v with
      | .ok s => .ok s
      | .error c => .fault ⟨name, some i, c, v⟩) vs.zipIdx
  | some v => faulty name v .notList

def names : List String :=
  ["source", "viewer", "no_default_sources", "no_search", "no_syntax_highlight", "theme", "width"]

def known (t : Table) : Check Unit :=
  match t.filter fun e => !names.contains e.1 with
  | [] => .ok ()
  | es => .error (es.map fun e => ⟨e.1, none, .unknown, e.2⟩)

def ofTable (t : Table) : Check Settings :=
  (fun sources viewer noDefaultSources noSearch noHighlighting theme width _ =>
      ⟨sources, viewer, noDefaultSources, noSearch, noHighlighting, theme, width⟩) <$>
    strings "source" t <*> option "viewer" viewerOf t <*>
    setting "no_default_sources" false boolOf t <*> setting "no_search" false boolOf t <*>
    setting "no_syntax_highlight" false boolOf t <*>
    option "theme" stringOf t <*> option "width" widthOf t <*> known t

def ofBytes (path : Path) (bytes : List UInt8) : Except Error Settings :=
  match Text.Utf8.decode bytes with
  | .error f => .error ⟨path, .notText f⟩
  | .ok s =>
    match Toml.parse s with
    | .error e => .error ⟨path, .malformed e⟩
    | .ok t =>
      match ofTable t with
      | .ok x => .ok x
      | .error fs => .error ⟨path, .invalid fs⟩

end CrateDocs.Settings
