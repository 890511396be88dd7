import CrateDocs.Record

/-!
Values of a settings document, and tables with their entries in the order in which they were made.

Dates and times of day, and how messages show them.
-/

namespace CrateDocs.Toml

structure Date where
  year : Nat
  month : Nat
  day : Nat
  deriving DecidableEq

def isLeap (year : Nat) : Bool := year % 4 == 0 && (year % 100 != 0 || year % 400 == 0)

def daysIn (year month : Nat) : Nat :=
  if month = 2 then if isLeap year then 29 else 28
  else if month = 4 ∨ month = 6 ∨ month = 9 ∨ month = 11 then 30
  else 31

/-- There is no year zero. -/
def Date.isValid (d : Date) : Bool := decide (1 ≤ d.year) && decide (d.day ≤ daysIn d.year d.month)

structure TimeOfDay where
  hour : Nat
  minute : Nat
  second : Nat
  micros : Nat
  deriving DecidableEq

/-- A date, a time of day, or both; then the distance from universal time may be known, which is
given in minutes. -/
inductive Moment where
  | date (d : Date)
  | time (t : TimeOfDay)
  | both (d : Date) (t : TimeOfDay) (offset : Option Int)
  deriving DecidableEq

namespace Moment

def dateParts (d : Date) : List Nat := [d.year, d.month, d.day]

def timeParts (t : TimeOfDay) : List Nat :=
  [t.hour, t.minute] ++
    if t.micros ≠ 0 then [t.second, t.micros] else if t.second ≠ 0 then [t.second] else []

def join (parts : List Nat) : String := ", ".intercalate (parts.map toString)

def shownOffset (minutes : Int) : String :=
  let seconds := 60 * minutes
  let days := seconds.fdiv 86400
  let rest := seconds.fmod 86400
  let parts := (if days = 0 then [] else ["days=" ++ toString days]) ++
    (if rest = 0 then [] else ["seconds=" ++ toString rest])
  if minutes = 0 then "datetime.timezone.utc"
  else "datetime.timezone(datetime.timedelta(" ++ ", ".intercalate parts ++ "))"

def shown : Moment → String
  | date d => "datetime.date(" ++ join (dateParts d) ++ ")"
  | time t => "datetime.time(" ++ join (timeParts t) ++ ")"
  | both d t offset =>
    let zone := match offset with
      | some m => ", tzinfo=" ++ shownOffset m
      | none => ""
    "datetime.datetime(" ++ join (dateParts d ++ timeParts t) ++ zone ++ ")"

def typeName : Moment → String
  | date _ => "date"
  | time _ => "time"
  | both .. => "datetime"

end Moment

inductive Value where
  | text (s : String)
  | int (n : Int)
  | float (x : Float)
  | bool (b : Bool)
  | moment (m : Moment)
  | list (items : List Value)
  | table (entries : List (String × Value))

abbrev Key := List String

abbrev Table := Record Value

namespace Table

/-- Changes the table under a key, which is made if it is not there. With `reach` a list on the way
stands for its last table. Where something else stands in the way there is no table to change. -/
def change (reach : Bool) (f : Table → Option Table) : Key → Table → Option Table
  | [], t => f t
  | name :: key, t =>
    match Record.get? name t with
    | none => (change reach f key []).map fun u => Record.set name (.table u) t
    | some (.table u) => (change reach f key u).map fun u => Record.set name (.table u) t
    | some (.list items) =>
      match reach, items.getLast? with
      | true, some (.table u) =>
        (change reach f key u).map fun u => Record.set name (.list (items.dropLast ++ [.table u])) t
      | _, _ => none
    | some _ => none

def append (name : String) (t : Table) : Option Table :=
  match Record.get? name t with
  | none => some (Record.set name (.list [.table []]) t)
  | some (.list items) => some (Record.set name (.list (items ++ [.table []])) t)
  | some _ => none

/-- Makes a new entry; an entry that is there is not overwritten. -/
def insert (name : String) (v : Value) (t : Table) : Option Table :=
  match Record.get? name t with
  | none => some (Record.set name v t)
  | some _ => none

end Table

end CrateDocs.Toml
