import CrateDocs.Decimal.Numeral
import CrateDocs.Text.Blank
import CrateDocs.Text.Digit

/-!
Numbers as people write them in settings: with blanks around them, a sign, digits of any script, and
single underscores between digits.
-/

namespace CrateDocs.Text.Numeral

/-- The blanks that may stand around a number; the separator controls are none of them. -/
def isMargin (c : Char) : Bool :=
  isBlank c && !(decide (0x1C ≤ c.toNat) && decide (c.toNat ≤ 0x1F))

def dropMargins (s : List Char) : List Char :=
  ((s.dropWhile isMargin).reverse.dropWhile isMargin).reverse

def sign : List Char → Bool × List Char
  | '-' :: r => (true, r)
  | '+' :: r => (false, r)
  | s => (false, s)

/-- The longest run of digits at the start, with single underscores between them: the values of the
digits, and the rest. -/
def digits : List Char → List Nat × List Char
  | [] => ([], [])
  | [c] =>
    match digitValue? c with
    | some d => ([d], [])
    | none => ([], [c])
  | c :: e :: r =>
    match digitValue? c with
    | none => ([], c :: e :: r)
    | some d =>
      if e = '_' then
        match digits r with
        | ([], _) => ([d], e :: r)
        | (ds, t) => (d :: ds, t)
      else
        let (ds, t) := digits (e :: r)
        (d :: ds, t)

def value (ds : List Nat) : Nat := ds.foldl (fun n d => 10 * n + d) 0

def integer? (s : List Char) : Option Int :=
  let (negative, r) := sign (dropMargins s)
  match digits r with
  | ([], _) => none
  | (ds, []) =>
    if Decimal.numeralLimit < ds.length then none
    else some (if negative then -(value ds : Int) else value ds)
  | _ => none

def fraction : List Char → List Nat × List Char
  | '.' :: r => digits r
  | s => ([], s)

def exponent? : List Char → Option Int
  | [] => some 0
  | e :: r =>
    if e = 'e' ∨ e = 'E' then
      let (negative, t) := sign r
      match digits t with
      | ([], _) => none
      | (ds, []) => some (if negative then -(value ds : Int) else value ds)
      | _ => none
    else none

def special? (s : List Char) : Option Float :=
  let w := String.ofList (s.map Char.toLower)
  if w = "inf" ∨ w = "infinity" then some (1.0 / 0.0)
  else if w = "nan" then some (0.0 / 0.0)
  else none

def amount? (s : List Char) : Option Float :=
  match special? s with
  | some x => some x
  | none =>
    let (whole, r) := digits s
    let (part, t) := fraction r
    if whole.isEmpty && part.isEmpty then none
    else (exponent? t).map fun e => Decimal.nearest (value (whole ++ part)) (e - part.length)

def float? (s : List Char) : Option Float :=
  let (negative, r) := sign (dropMargins s)
  (amount? r).map fun x => if negative then -x else x

end CrateDocs.Text.Numeral
