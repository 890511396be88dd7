/-!
Reading bytes as characters, from the front. A machine looks at the next byte and at those after it
and says what they stand for: characters, a fault, or that the whole text cannot be read. A fault
takes at least one byte, and the reading goes on behind it.
-/

namespace CrateDocs.Charset

inductive Reading where
  /-- Characters of the next byte and of `more` bytes after it. -/
  | text (cs : List Char) (more : Nat)
  /-- Neither the next byte nor the `more` bytes after it stand for a character. -/
  | fault (more : Nat)
  | refused
  deriving DecidableEq

namespace Reading

def byte (b : Nat) : Reading := .text [Char.ofNat b] 0

def ofChars? (cs : Option (List Char)) (more : Nat) : Reading :=
  match cs with
  | some cs => .text cs more
  | none => .fault 0

def ofChar? (c : Option Char) (more : Nat) : Reading := ofChars? (c.map fun c => [c]) more

def cut (r : List Nat) : Reading := .fault r.length

def pair (f : Nat → Nat → Option (List Char)) (b : Nat) (r : List Nat) : Reading :=
  if b < 0x80 then byte b
  else
    match r with
    | [] => cut r
    | c :: _ => ofChars? (f b c) 1

end Reading

/-- A way to read bytes that remembers a state of type `σ`. `finish` is what a state stands for at
the end of the text. -/
structure Machine (σ : Type) where
  start : σ
  step : σ → Nat → List Nat → Reading × σ
  finish : σ → List (Option Char)

namespace Machine

def stateless (f : Nat → List Nat → Reading) : Machine Unit where
  start := ()
  step _ b r := (f b r, ())
  finish _ := []

def readFrom (m : Machine σ) (s : σ) (done : List (Option Char)) :
    List Nat → Option (List (Option Char))
  | [] => some (done.reverse ++ m.finish s)
  | b :: r =>
    match m.step s b r with
    | (.text cs more, t) => m.readFrom t (cs.foldl (fun d c => some c :: d) done) (r.drop more)
    | (.fault more, t) => m.readFrom t (none :: done) (r.drop more)
    | (.refused, _) => none
termination_by s => s.length
decreasing_by all_goals simp only [List.length_drop, List.length_cons]; omega

def read (m : Machine σ) (s : List UInt8) : Option (List (Option Char)) :=
  m.readFrom m.start [] (s.map UInt8.toNat)

end Machine

end CrateDocs.Charset
