import CrateDocs.Decimal.Numeral
import CrateDocs.Toml.Value

/-!
Numbers, dates and times at the start of a text. Each reader gives what it has read and what
follows.
-/

namespace CrateDocs.Toml

def isOctalDigit (c : Char) : Bool := decide ('0' ≤ c) && decide (c ≤ '7')

def isBinaryDigit (c : Char) : Bool := c == '0' || c == '1'

def digits (p : Char → Bool) : List Char → List Char × List Char
  | c :: '_' :: d :: r =>
    if p c then
      if p d then
        let (ds, t) := digits p (d :: r)
        (c :: ds, t)
      else ([c], '_' :: d :: r)
    else ([], c :: '_' :: d :: r)
  | c :: r =>
    if p c then
      let (ds, t) := digits p r
      (c :: ds, t)
    else ([], c :: r)
  | [] => ([], [])

def basedNumber? : List Char → Option (Nat × List Char)
  | '0' :: letter :: r =>
    let base? : Option (Nat × (Char → Bool)) :=
      if letter = 'x' then some (16, Text.isHexDigit)
      else if letter = 'b' then some (2, isBinaryDigit)
      else if letter = 'o' then some (8, isOctalDigit)
      else none
    match base? with
    | none => none
    | some (base, p) =>
      let (ds, t) := digits p r
      if ds.isEmpty then none else some (Text.numberIn base ds, t)
  | _ => none

def sign : List Char → Option Bool × List Char
  | '-' :: r => (some true, r)
  | '+' :: r => (some false, r)
  | s => (none, s)

def fraction? : List Char → Option (List Char) × List Char
  | '.' :: r =>
    let (ds, t) := digits Char.isDigit r
    if ds.isEmpty then (none, '.' :: r) else (some ds, t)
  | s => (none, s)

def exponent? : List Char → Option Int × List Char
  | e :: r =>
    if e = 'e' ∨ e = 'E' then
      let (minus, s) := sign r
      let (ds, t) := digits Char.isDigit s
      if ds.isEmpty then (none, e :: r)
      else
        let n : Int := Text.numberIn 10 ds
        (some (if minus = some true then -n else n), t)
    else (none, e :: r)
  | [] => (none, [])

def numeral? (s : List Char) : Option (Decimal.Numeral × List Char) :=
  let (minus, s) := sign s
  let (whole, t) := match s with
    | '0' :: r => (['0'], r)
    | r => digits Char.isDigit r
  if whole.isEmpty then none
  else
    let (fraction, t) := fraction? t
    let (exponent, t) := exponent? t
    some (⟨minus = some true, whole, fraction, exponent⟩, t)

def specials : List (String × Float) :=
  [("inf", 1.0 / 0.0), ("nan", 0.0 / 0.0), ("-inf", -1.0 / 0.0), ("+inf", 1.0 / 0.0),
    ("-nan", 0.0 / 0.0), ("+nan", 0.0 / 0.0)]

def pair? (low high : Nat) : List Char → Option (Nat × List Char)
  | a :: b :: r =>
    let n := Text.numberIn 10 [a, b]
    if a.isDigit && b.isDigit && decide (low ≤ n) && decide (n ≤ high) then some (n, r) else none
  | _ => none

def mark? (c : Char) : List Char → Option (List Char)
  | d :: r => if d = c then some r else none
  | [] => none

def micros (ds : List Char) : Nat :=
  Text.numberIn 10 (ds.take 6 ++ List.replicate (6 - ds.length) '0')

def secondFraction : List Char → Nat × List Char
  | '.' :: r =>
    let ds := r.takeWhile Char.isDigit
    if ds.isEmpty then (0, '.' :: r) else (micros ds, r.drop ds.length)
  | s => (0, s)

def time? (s : List Char) : Option (TimeOfDay × List Char) := do
  let (hour, s) ← pair? 0 23 s
  let s ← mark? ':' s
  let (minute, s) ← pair? 0 59 s
  let s ← mark? ':' s
  let (second, s) ← pair? 0 59 s
  let (micros, s) := secondFraction s
  return (⟨hour, minute, second, micros⟩, s)

def offset? : List Char → Option (Int × List Char)
  | 'Z' :: r => some (0, r)
  | 'z' :: r => some (0, r)
  | c :: r =>
    if c = '+' ∨ c = '-' then do
      let (hour, s) ← pair? 0 23 r
      let s ← mark? ':' s
      let (minute, s) ← pair? 0 59 s
      let n : Int := 60 * hour + minute
      return (if c = '-' then -n else n, s)
    else none
  | [] => none

def date? (s : List Char) : Option (Date × List Char) := do
  let (century, s) ← pair? 0 99 s
  let (year, s) ← pair? 0 99 s
  let s ← mark? '-' s
  let (month, s) ← pair? 1 12 s
  let s ← mark? '-' s
  let (day, s) ← pair? 1 31 s
  return (⟨100 * century + year, month, day⟩, s)

def dated (d : Date) (s : List Char) : Moment × List Char :=
  match s with
  | c :: r =>
    if c = 'T' ∨ c = 't' ∨ c = ' ' then
      match time? r with
      | none => (.date d, s)
      | some (t, u) =>
        match offset? u with
        | some (n, v) => (.both d t (some n), v)
        | none => (.both d t none, u)
    else (.date d, s)
  | [] => (.date d, [])

/-- A date with or without a time, or a time of day, and the rest. There is no moment if there is no
such day. -/
def moment? (s : List Char) : Option (Option Moment × List Char) :=
  match date? s with
  | some (d, t) =>
    let (m, r) := dated d t
    some (if d.isValid then some m else none, r)
  | none => (time? s).map fun p => (some (.time p.1), p.2)

end CrateDocs.Toml
