import CrateDocs.Decimal.Numeral
import CrateDocs.Markup.CharRefTable
import CrateDocs.Text.CharSet
import CrateDocs.Text.Digit

/-!
Character references. A number names a code point, except that the numbers of the C1 controls name
the characters of the Windows code page; a decimal number may only have so many digits. Attribute
values also take some names without a semicolon and the longest such name at the start of a longer
one.

Why a marked-up text cannot be read.
-/

namespace CrateDocs.Markup

inductive Fault where
  | unknownSection
  | numeralTooLong
  deriving DecidableEq

def Fault.message : Fault → String
  | unknownSection => "unknown marked section"
  | numeralTooLong => "numbered reference too long"

end CrateDocs.Markup

namespace CrateDocs.Markup.CharRef

def named? (name : List Char) : Option (List Char) :=
  match name with
  | [] => none
  | c :: _ =>
    ((namedBy c).find? fun e => e.1 == String.ofList name).map fun e => e.2.map Char.ofNat

def looseNamed? (name : List Char) : Option (List Char) :=
  if loose.contains (String.ofList name) then named? name else none

/-- The characters of the Windows code page from 128 on. Five places have none and name the
controls themselves. -/
def windowsControls : List Nat := [
  0x20AC, 0x81, 0x201A, 0x192, 0x201E, 0x2026, 0x2020, 0x2021, 0x2C6, 0x2030, 0x160, 0x2039, 0x152,
  0x8D, 0x17D, 0x8F, 0x90, 0x2018, 0x2019, 0x201C, 0x201D, 0x2022, 0x2013, 0x2014, 0x2DC, 0x2122,
  0x161, 0x203A, 0x153, 0x9D, 0x17E, 0x178]

def numbered (n : Nat) : Char :=
  if n = 0 ∨ (0xD800 ≤ n ∧ n ≤ 0xDFFF) ∨ 0x10FFFF < n then '\ufffd'
  else if 0x80 ≤ n ∧ n ≤ 0x9F then Char.ofNat (windowsControls.getD (n - 0x80) 0xFFFD)
  else Char.ofNat n

def isExcluded (n : Nat) : Bool :=
  (decide (1 ≤ n) && decide (n ≤ 8)) || n == 0x0B || (decide (0x0E ≤ n) && decide (n ≤ 0x1F)) ||
    n == 0x7F || (decide (0xFDD0 ≤ n) && decide (n ≤ 0xFDEF)) ||
    (decide (n ≤ 0x10FFFF) && decide (0xFFFE ≤ n % 0x10000))

def number? (s : List Char) : Option (Except Fault Nat × List Char) :=
  match s with
  | x :: r =>
    if x = 'x' ∨ x = 'X' then
      let ds := r.takeWhile Text.isHexDigit
      if ds.isEmpty then none else some (.ok (Text.numberIn 16 ds), r.drop ds.length)
    else
      let ds := s.takeWhile Char.isDigit
      if ds.isEmpty then none
      else if Decimal.numeralLimit < ds.length then some (.error .numeralTooLong, s.drop ds.length)
      else some (.ok (Text.numberIn 10 ds), s.drop ds.length)
  | [] => none

def dropSemicolon : List Char → List Char
  | ';' :: r => r
  | r => r

def isNameChar (c : Char) : Bool :=
  !(c == '\t' || c == '\n' || c == '\x0c' || c == ' ' || c == '<' || c == '&' || c == '#' ||
    c == ';')

/-- The longest loose name of at least two characters at the start of `name`, with the number of
characters that it leaves. -/
def longestLoose (name : List Char) : Nat → Option (List Char × List Char)
  | 0 => none
  | n + 1 =>
    if n + 1 < 2 then none
    else
      match looseNamed? (name.take (n + 1)) with
      | some v => some (v, name.drop (n + 1))
      | none => longestLoose name n

def attributeNamed (name : List Char) (closed : Bool) : List Char :=
  let close := if closed then [';'] else []
  match if closed then named? name else looseNamed? name with
  | some v => v
  | none =>
    match longestLoose name (if closed then name.length else name.length - 1) with
    | some (v, r) => v ++ r ++ close
    | none => '&' :: name ++ close

def attributeRef (s : List Char) : Option (Except Fault (List Char) × List Char) :=
  match s with
  | '#' :: r =>
    (number? r).map fun p =>
      (p.1.map fun n => if isExcluded n then [] else [numbered n], dropSemicolon p.2)
  | _ =>
    let name := (s.takeWhile isNameChar).take 32
    if name.isEmpty then none
    else
      match s.drop name.length with
      | ';' :: r => some (.ok (attributeNamed name true), r)
      | r => some (.ok (attributeNamed name false), r)

def expandFrom : Nat → List Char → Except Fault (List Char)
  | 0, s => .ok s
  | _, [] => .ok []
  | fuel + 1, c :: r =>
    if c = '&' then
      match attributeRef r with
      | some (v, t) => do
        let v ← v
        .ok (v ++ (← expandFrom fuel t))
      | none => (expandFrom fuel r).map (c :: ·)
    else (expandFrom fuel r).map (c :: ·)

def expandAttribute (s : List Char) : Except Fault (List Char) := expandFrom s.length s

end CrateDocs.Markup.CharRef
