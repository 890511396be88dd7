import CrateDocs.Decimal.Binary
import CrateDocs.Log
import CrateDocs.Suggest.Similarity

namespace CrateDocs.Suggest

structure Scored (σ : Type) where
  name : String
  score : σ

variable {σ : Type} [LE σ] [DecidableLE σ]

/-- A higher score comes first; names of equal scores come in order. -/
def Scored.precedes (a b : Scored σ) : Bool :=
  if a.score ≤ b.score then decide (b.score ≤ a.score) && decide (a.name ≤ b.name) else true

def eligible (query : String) (threshold : σ) (score : String → Option σ)
    (names : List String) : List (Scored σ) :=
  names.filterMap fun n =>
    if n = query then none
    else ((score n).filter fun x => decide (threshold ≤ x)).map (Scored.mk n)

def select (query : String) (limit : Int) (threshold : σ) (score : String → Option σ)
    (names : List String) : List String :=
  (((eligible query threshold score names).mergeSort Scored.precedes).take limit.toNat).map
    Scored.name

/-- How much each measure counts, and what an equal or a similar last segment adds. -/
structure Weights where
  set : Float
  sorted : Float
  part : Float
  lastSegment : Float
  partOfLast : Float

def clamp (x : Float) : Float :=
  let y := if x < 1.0 then x else 1.0
  if 0.0 < y then y else 0.0

def similarity (w : Weights) (query name : String) : Float :=
  let a := normalize query.toList
  let b := normalize name.toList
  if a.isEmpty || b.isEmpty then 0
  else clamp (w.set * (setRatio a b / 100) + w.sorted * (sortedRatio a b / 100) +
    w.part * (partRatio a b / 100))

def lastSegment? (s : String) : Option (List Char) :=
  (((Text.splitOn [':', ':'] s.toList).filter fun p => !p.isEmpty).getLast?).map Text.lower

def bonus (w : Weights) (query name : String) : Float :=
  match lastSegment? query, lastSegment? name with
  | some a, some b =>
    if a = b then w.lastSegment
    else if Text.occursIn a b then w.partOfLast
    else if Text.occursIn b a then w.partOfLast * 0.6
    else 0
  | _, _ => 0

def threshold (query : String) : Float :=
  let n := (Text.trim query.toList).length
  if n ≤ 5 then 0.55 else if n ≤ 10 then 0.60 else if n ≤ 20 then 0.63 else 0.65

def total (base added : Float) : Float :=
  let sum := base + added
  if sum < 1.0 then sum else 1.0

def score? (base added : Float) : Option Float :=
  if base == 0 then none else some (total base added)

/-- The threshold that counts: the one that is asked for, but no more than that of the name. -/
def effective (query : String) (asked : Float) : Float :=
  if threshold query < asked then threshold query else asked

def best (base added : String → Float) (query : String) (limit : Int) (asked : Float)
    (names : List String) : List String :=
  select query limit (effective query asked) (fun n => score? (base n) (added n)) names

def suggest (w : Weights) (query : String) (limit : Int) (asked : Float) (names : List String) :
    List String :=
  best (similarity w query) (bonus w query) query limit asked names

def report (query : String) (limit : Int) (asked : Float) (names found : List String) :
    List Event :=
  if names.isEmpty || decide (limit ≤ 0) then []
  else [⟨.info, .suggestion, "Found " ++ toString found.length ++ " fuzzy suggestions for '" ++
    query ++ "' (threshold: " ++ Decimal.fixed 2 (effective query asked) ++
    ", candidates evaluated: " ++ toString names.length ++ ")"⟩]

end CrateDocs.Suggest
