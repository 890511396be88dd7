import CrateDocs.Doc.Basic
import CrateDocs.Log

/-!
Listings. Members stand on a page as headings, each with a block of documentation after it or
without one. A listing turns such a run into documents: a heading starts a member, the first block
after it describes it, and a block that follows no heading belongs to no member.
-/

namespace CrateDocs

inductive Step where
  | start (name : Option String) (definition : Option String)
  | describe (description : Option Prose)
  | finish

structure Pending where
  name : String
  definition : Option String
  deriving DecidableEq

/-- What a listing is in the middle of: nothing, a member of which only the name is known, or one
with its declaration. -/
inductive Listing.State where
  | idle
  | named (name : String)
  | defined (name : String) (definition : String)
  deriving DecidableEq

namespace Listing.State

def pending : State → Option Pending
  | idle => none
  | named n => some ⟨n, none⟩
  | defined n d => some ⟨n, some d⟩

def ofHeading : Option String → Option String → State
  | none, _ => idle
  | some n, none => if n.isEmpty then idle else named n
  | some n, some d => if n.isEmpty then idle else defined n d

end Listing.State

structure Listing where
  parent : Name
  kind : Kind
  done : List Doc
  state : Listing.State

namespace Listing

def empty (parent : Name) (kind : Kind) : Listing := ⟨parent, kind, [], .idle⟩

def docs (l : Listing) : List Doc := l.done.reverse

def pending (l : Listing) : Option Pending := l.state.pending

def complete (description : Option Prose) (l : Listing) : Listing :=
  match l.pending with
  | none => l
  | some p => { l with
      done := .leaf (l.parent.child p.name) l.kind p.definition description :: l.done
      state := .idle }

def step (l : Listing) : Step → Listing
  | .finish => l.complete none
  | .describe d => l.complete d
  | .start name definition => { l.complete none with state := .ofHeading name definition }

def run (l : Listing) (steps : List Step) : Listing := steps.foldl step l

def complaint (l : Listing) : Step → List Event
  | .describe _ =>
    if l.pending.isSome then []
    else [⟨.debug, .listing, "Dropping " ++ l.kind.token ++ " docblock without a heading"⟩]
  | _ => []

def events (l : Listing) : Trail Step → List Event
  | [] => []
  | .inl e :: r => e :: l.events r
  | .inr s :: r => l.complaint s ++ (l.step s).events r

/-- Whether one member comes before another one: by name, then those without a definition first,
then by definition. -/
def precedes (a b : Doc) : Bool :=
  if a.name ≠ b.name then decide (a.name < b.name)
  else match a.definition, b.definition with
    | none, _ => true
    | some _, none => false
    | some x, some y => decide (x ≤ y)

def sort (l : Listing) : Listing := { l with done := (l.docs.mergeSort precedes).reverse }

def group (title : Option String) (l : Listing) : Option (MemberGroup Doc) :=
  let ds := (l.complete none).docs
  if ds.isEmpty then none else some ⟨title, ds⟩

def collect (parent : Name) (kind : Kind) (title : Option String) (t : Trail Step) :
    Trail (MemberGroup Doc) :=
  ((empty parent kind).events t).map .inl ++
    (((empty parent kind).run t.items).group title).toList.map .inr

end Listing

end CrateDocs
