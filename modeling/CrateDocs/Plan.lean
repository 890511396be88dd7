import CrateDocs.Path
import CrateDocs.Toolchain
import CrateDocs.Traced

/-!
Plans: work that asks the outside for what it needs, one question after the other, and reports what
it does. What a plan comes to hangs on the answers alone: `run` gives the outcome in a world that
has an answer to every question, and a run of two plans in a row is the runs of both.
-/

namespace CrateDocs

/-- Why a file cannot be read. No file has a name with a null character, or with half of a pair. -/
inductive ReadFault where
  | missing
  | folder
  | notFolder
  | tooLong
  | nullCharacter
  | halfPair
  deriving DecidableEq

namespace ReadFault

/-- The number that the system has for a fault, and its text. Paths that the system is not even
asked about have no number. -/
def describe : ReadFault → Option Nat × String
  | missing => (some 2, "No such file or directory")
  | folder => (some 21, "Is a directory")
  | notFolder => (some 20, "Not a directory")
  | tooLong => (some 36, "File name too long")
  | nullCharacter => (none, "embedded null byte")
  | halfPair => (none, "surrogates not allowed")

def isOfSystem (f : ReadFault) : Bool := f.describe.1.isSome

def message (f : ReadFault) (p : Path) : String :=
  match f.describe with
  | (some n, text) =>
    "[Errno " ++ toString n ++ "] " ++ text ++ ": " ++ Text.Quoted.quote p.toString
  | (none, text) => text

end ReadFault

def Path.refused? (p : Path) : Option ReadFault :=
  let s := p.toString.toList
  if s.contains '\x00' then some .nullCharacter
  else if s.any fun c => !Text.Surrogate.hasBytes c then some .halfPair
  else none

inductive Question where
  | isFile (p : Path)
  | isFolder (p : Path)
  | read (p : Path)
  | entries (p : Path)
  | here
  | compiler
  | person (prompt : String)

abbrev Question.Answer : Question → Type
  | isFile _ => Except ReadFault Bool
  | isFolder _ => Except ReadFault Bool
  | read _ => Except ReadFault (List UInt8)
  | entries _ => Except ReadFault (List String)
  | here => Path
  | compiler => Toolchain.Report
  | person _ => String

def World : Type := (q : Question) → q.Answer

inductive Plan (ε α : Type) where
  | done (a : α)
  | fail (e : ε)
  | note (e : Event) (next : Plan ε α)
  | ask (q : Question) (next : q.Answer → Plan ε α)

namespace Plan

def andThen : Plan ε α → (α → Plan ε β) → Plan ε β
  | done a, f => f a
  | fail e, _ => fail e
  | note e next, f => note e (next.andThen f)
  | ask q next, f => ask q fun a => (next a).andThen f

instance : Monad (Plan ε) where
  pure := done
  bind := andThen

def question (q : Question) : Plan ε q.Answer := ask q done

def notes : List Event → Plan ε Unit
  | [] => done ()
  | e :: r => note e (notes r)

def ofTraced (x : Traced ε α) : Plan ε α :=
  (notes x.events).andThen fun _ =>
    match x.result with
    | .ok a => done a
    | .error e => fail e

def ofExcept : Except ε α → Plan ε α
  | .ok a => done a
  | .error e => fail e

def mapError (f : ε → δ) : Plan ε α → Plan δ α
  | done a => done a
  | fail e => fail (f e)
  | note e next => note e (next.mapError f)
  | ask q next => ask q fun a => (next a).mapError f

def firstFound : List (Plan ε (Option α)) → Plan ε (Option α)
  | [] => done none
  | p :: r => do
    match ← p with
    | some a => return some a
    | none => firstFound r

def filter (p : α → Plan ε Bool) : List α → Plan ε (List α)
  | [] => done []
  | a :: r => do
    let keep ← p a
    let as ← filter p r
    return if keep then a :: as else as

def run (w : World) : Plan ε α → Traced ε α
  | done a => pure a
  | fail e => .fail e
  | note e next => ⟨(next.run w).result, e :: (next.run w).events⟩
  | ask q next => (next (w q)).run w

def shown (w : World) : Plan ε α → String
  | done _ => ""
  | fail _ => ""
  | note _ next => next.shown w
  | ask q next => (match q with
      | .person prompt => prompt
      | _ => "") ++ (next (w q)).shown w

@[simp] theorem run_pure (w : World) (a : α) : (pure a : Plan ε α).run w = pure a := rfl

@[simp] theorem run_fail (w : World) (e : ε) : (fail e : Plan ε α).run w = .fail e := rfl

@[simp] theorem run_question (w : World) (q : Question) :
    (question q : Plan ε q.Answer).run w = pure (w q) := rfl

theorem run_bind (w : World) (p : Plan ε α) (f : α → Plan ε β) :
    (p >>= f).run w = p.run w >>= fun a => (f a).run w := by
  simp only [bind]
  induction p with
  | done a => simp [andThen, run, pure]
  | fail e => simp [andThen, run, Traced.fail]
  | note e next ih =>
    simp only [andThen, run, ih]
    cases (next.run w).result <;> simp
  | ask q next ih => simp only [andThen, run, ih]

@[simp] theorem result_run_ofTraced (w : World) (x : Traced ε α) :
    ((ofTraced x).run w).result = x.result := by
  obtain ⟨result, events⟩ := x
  unfold ofTraced
  induction events with
  | nil => cases result <;> rfl
  | cons e r ih => exact ih

end Plan

end CrateDocs
