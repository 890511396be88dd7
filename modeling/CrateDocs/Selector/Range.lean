import CrateDocs.Decimal.Nearest
import CrateDocs.Decimal.Numeral
import CrateDocs.Selector.Basic

/-!
The values of inputs that have a smallest and a largest one: dates, times and numbers. A value that
is not written as its type asks for counts as none.
-/

namespace CrateDocs.Selector.Range

open Markup

inductive Amount where
  | moment (parts : List Nat)
  | number (x : Float)

def isLessParts : List Nat → List Nat → Bool
  | [], _ => false
  | _ :: _, [] => false
  | a :: r, b :: s => decide (a < b) || (a == b && isLessParts r s)

def Amount.isLess : Amount → Amount → Bool
  | moment a, moment b => isLessParts a b
  | number a, number b => decide (a < b)
  | _, _ => false

inductive Part where
  | sign (c : Char)
  | digits (count : Nat)
  | manyDigits (count : Nat)

def read? : List Part → List Char → Option (List (List Char))
  | [], [] => some []
  | [], ['\n'] => some []
  | [], _ => none
  | .sign c :: ps, s =>
    match s with
    | d :: r => if c = d then read? ps r else none
    | [] => none
  | .digits n :: ps, s =>
    let ds := s.take n
    if ds.length = n ∧ ds.all Char.isDigit then (read? ps (s.drop n)).map (ds :: ·) else none
  | .manyDigits n :: ps, s =>
    let ds := s.takeWhile Char.isDigit
    if n ≤ ds.length then (read? ps (s.drop ds.length)).map (ds :: ·) else none

def yearMonth : List Part := [.manyDigits 4, .sign '-', .digits 2]

def clock : List Part := [.digits 2, .sign ':', .digits 2]

def day : List Part := yearMonth ++ [.sign '-', .digits 2]

def isLeap (year : Nat) : Bool := (year % 4 == 0 && year % 100 != 0) || year % 400 == 0

def daysIn (year month : Nat) : Nat :=
  if month = 2 then (if isLeap year then 29 else 28)
  else if [4, 6, 9, 11].contains month then 30
  else 31

def lastWeekday (year : Nat) : Nat := (year + year / 4 - year / 100 + year / 400) % 7

/-- The number of weeks in a year. A year whose last days are in the first week of the next one is
taken to have as many as any. -/
def weeksIn (year : Nat) : Nat :=
  let w := lastWeekday year
  if (1 ≤ w ∧ w ≤ 4) ∨ (w = 5 ∧ isLeap year) then 53 else 52

def isClock (hour minute : Nat) : Bool := decide (hour ≤ 23) && decide (minute ≤ 59)

def isDate (year month day : Nat) : Bool :=
  decide (1 ≤ year) && decide (1 ≤ month ∧ month ≤ 12) &&
    decide (1 ≤ day ∧ day ≤ daysIn year month)

def numbers? (pattern : List Part) (s : List Char) : Except Fault (Option (List Nat)) :=
  match read? pattern s with
  | none => .ok none
  | some ds =>
    if ds.any fun d => decide (Decimal.numeralLimit < d.length) then .error .numeralTooLong
    else .ok (some (ds.map (Text.numberIn 10)))

def momentIf (valid : Bool) (parts : List Nat) : Option Amount :=
  if valid then some (.moment parts) else none

def week? (s : List Char) : Except Fault (Option Amount) := do
  match ← numbers? [.manyDigits 4, .sign '-', .sign 'W', .digits 2] s with
  | some [y, w] =>
    if y = 0 then .ok none
    else if y < 1000 ∨ 9999 < y then .error .noSuchYear
    else .ok (momentIf (decide (1 ≤ w ∧ w ≤ weeksIn y)) [y, w])
  | _ => .ok none

def number? (s : List Char) : Option Float :=
  let (negative, r) : Bool × List Char := match s with
    | '-' :: r => (true, r)
    | r => (false, r)
  let whole := r.takeWhile Char.isDigit
  let parts := match r.drop whole.length with
    | '.' :: t => read? [.manyDigits 1] t
    | t => if whole.isEmpty then none else (read? [] t).map fun _ => [[]]
  match parts with
  | some [f] =>
    let x := Decimal.nearest (Text.numberIn 10 (whole ++ f)) (-(f.length : Int))
    some (if negative then -x else x)
  | _ => none

def amount? (type : String) (s : List Char) : Except Fault (Option Amount) := do
  match type with
  | "date" =>
    match ← numbers? day s with
    | some [y, m, d] => .ok (momentIf (isDate y m d) [y, m, d])
    | _ => .ok none
  | "month" =>
    match ← numbers? yearMonth s with
    | some [y, m] => .ok (momentIf (isDate y m 1) [y, m])
    | _ => .ok none
  | "week" => week? s
  | "time" =>
    match ← numbers? clock s with
    | some [h, m] => .ok (momentIf (isClock h m) [h, m])
    | _ => .ok none
  | "datetime-local" =>
    match ← numbers? (day ++ [.sign 'T'] ++ clock) s with
    | some [y, m, d, h, k] => .ok (momentIf (isDate y m d && isClock h k) [y, m, d, h, k])
    | _ => .ok none
  | "number" | "range" => .ok ((number? s).map .number)
  | _ => .ok none

def bound? (type name : String) (n : Node) : Except Fault (Option Amount) :=
  match attribute? name n with
  | some v => amount? type v.toList
  | none => .ok none

/-- Whether a value is beyond its bounds. Times go around, so that the smallest one may be later
than the largest one. -/
def isBeyond (type : String) (least most : Option Amount) (value : Amount) : Bool :=
  let below := least.any value.isLess
  let above := most.any fun m => m.isLess value
  let wraps := type == "time" && least.any fun l => most.any fun m => m.isLess l
  if wraps then below && above else below || above

def holds (within : Bool) (n : Node) : Except Fault Bool := do
  match (attribute? "type" n).map asciiLower with
  | none => .error .noType
  | some type =>
    let least ← bound? type "min" n
    let most ← bound? type "max" n
    if least.isNone && most.isNone then .ok false
    else
      match ← bound? type "value" n with
      | none => .ok within
      | some v => .ok (isBeyond type least most v != within)

end CrateDocs.Selector.Range
