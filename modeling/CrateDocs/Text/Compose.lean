import CrateDocs.Text.ComposeTable

/-!
The composed form of a text. Characters are taken apart, marks are put in the order of their
classes, and what composes is put together again, so that texts that look the same are the same.
-/

namespace CrateDocs.Text.Compose

def firstDecomposed : Nat := 0xC0

def step? (n : Nat) : Option (List Nat) :=
  if n < firstDecomposed then none
  else
    match pairs.find? fun p => p.1 == n with
    | some (_, a, b) => some [a, b]
    | none =>
      match splits.find? fun p => p.1 == n with
      | some (_, a, b) => some [a, b]
      | none => (rows.findSome? fun r => if r.1 ≤ n then r.2[n - r.1]? else none).map ([·])

def syllables : Nat := 0xAC00

def leads : Nat := 0x1100

def vowels : Nat := 0x1161

def tails : Nat := 0x11A7

def isSyllable (n : Nat) : Bool := decide (syllables ≤ n) && decide (n < syllables + 11172)

def syllableParts (n : Nat) : List Nat :=
  let i := n - syllables
  let t := i % 28
  [leads + i / 588, vowels + i % 588 / 28] ++ if t = 0 then [] else [tails + t]

def depth : Nat := 4

def decomposeChar : Nat → Nat → List Nat
  | 0, n => [n]
  | fuel + 1, n =>
    if isSyllable n then syllableParts n
    else match step? n with
      | some ns => ns.flatMap (decomposeChar fuel)
      | none => [n]

def classOf (n : Nat) : Nat :=
  if n < 0x300 then 0
  else
    match classes.find? fun r => decide (r.1 ≤ n) && decide (n ≤ r.2.1) with
    | some (_, _, k) => k
    | none => 0

/-- Sorts each run of marks by class. The marks of the run being read are kept backwards. -/
def orderFrom (marks : List (Nat × Nat)) : List (Nat × Nat) → List (Nat × Nat)
  | [] => sorted marks
  | (n, k) :: r =>
    if k = 0 then sorted marks ++ (n, k) :: orderFrom [] r
    else orderFrom ((n, k) :: marks) r
where
  sorted (marks : List (Nat × Nat)) : List (Nat × Nat) :=
    marks.reverse.mergeSort fun a b => decide (a.2 ≤ b.2)

def composed? (a b : Nat) : Option Nat :=
  if leads ≤ a ∧ a < leads + 19 ∧ vowels ≤ b ∧ b < vowels + 21 then
    some (syllables + ((a - leads) * 21 + (b - vowels)) * 28)
  else if isSyllable a ∧ (a - syllables) % 28 = 0 ∧ tails < b ∧ b < tails + 28 then
    some (a + (b - tails))
  else (pairs.find? fun p => p.2.1 == a && p.2.2 == b).map Prod.fst

/-- What has been composed since the last character of class zero, with the marks that stay beside
it, last first. -/
structure Cluster where
  base : Option Nat
  marks : List (Nat × Nat)

def Cluster.toList (c : Cluster) : List Nat := c.base.toList ++ c.marks.reverse.map Prod.fst

def Cluster.reaches (c : Cluster) (k : Nat) : Bool :=
  match c.marks with
  | [] => true
  | (_, last) :: _ => decide (last < k)

def composeFrom (c : Cluster) : List (Nat × Nat) → List Nat
  | [] => c.toList
  | (n, k) :: r =>
    match (c.base.filter fun _ => c.reaches k).bind fun b => composed? b n with
    | some m => composeFrom { c with base := some m } r
    | none =>
      if k = 0 then c.toList ++ composeFrom ⟨some n, []⟩ r
      else composeFrom { c with marks := (n, k) :: c.marks } r

def firstMark : Nat := 0x300

def compose (s : List Char) : List Char :=
  if s.all fun c => decide (c.toNat < firstMark) then s
  else
    let parts := s.flatMap fun c => decomposeChar depth c.toNat
    (composeFrom ⟨none, []⟩ (orderFrom [] (parts.map fun n => (n, classOf n)))).map Char.ofNat

end CrateDocs.Text.Compose
