import CrateDocs.Item.Name
import CrateDocs.Item.Kind

/-!
The documentation of an item: its declaration, its description, and its members in groups by kind.
The groups of a document come in the order of the kinds, and no kind has an empty list of groups.
-/

namespace CrateDocs

structure Prose where
  plain : String
  markup : String
  deriving DecidableEq

structure MemberGroup (α : Type) where
  title : Option String
  members : List α

structure Doc where
  name : Name
  kind : Kind
  definition : Option String
  description : Option Prose
  groups : List (Kind × List (MemberGroup Doc))
  url : Option String

structure Example where
  code : String
  description : Option Prose

namespace Doc

abbrev Group := MemberGroup Doc

def groupsOf (k : Kind) (d : Doc) : List Group :=
  ((d.groups.find? fun e => e.1 == k).map Prod.snd).getD []

def arrange (groups : List (Kind × List Group)) : List (Kind × List Group) :=
  (groups.filter fun e => !e.2.isEmpty).mergeSort fun a b => decide (a.1.rank ≤ b.1.rank)

def ofParts (name : Name) (kind : Kind) (definition : Option String) (description : Option Prose)
    (groups : List (Kind × List Group)) : Doc :=
  ⟨name, kind, definition, description, arrange groups, none⟩

def leaf (name : Name) (kind : Kind) (definition : Option String) (description : Option Prose) :
    Doc := ⟨name, kind, definition, description, [], none⟩

/-- Puts groups behind those of their kind, or at the place of their kind. -/
def insertGroups (k : Kind) (gs : List Group) : List (Kind × List Group) → List (Kind × List Group)
  | [] => [(k, gs)]
  | (j, hs) :: r =>
    if j = k then (j, hs ++ gs) :: r
    else if k.rank < j.rank then (k, gs) :: (j, hs) :: r
    else (j, hs) :: insertGroups k gs r

def withGroups (k : Kind) (gs : List Group) (d : Doc) : Doc :=
  if gs.isEmpty then d else { d with groups := insertGroups k gs d.groups }

def withUrl (url : String) (fragment : Option String) (d : Doc) : Doc :=
  { d with url := some (match fragment with
    | some f => if f.isEmpty then url else url ++ "#" ++ f
    | none => url) }

def summary (d : Doc) : String :=
  match d.description with
  | some p => d.name.text ++ ": " ++ p.plain
  | none => d.name.text

mutual

def same : Doc → Doc → Bool
  | ⟨n, k, c, p, gs, u⟩, ⟨n', k', c', p', gs', u'⟩ =>
    n == n' && k == k' && c == c' && p == p' && u == u' && sameEntries gs gs'

def sameEntries : List (Kind × List Group) → List (Kind × List Group) → Bool
  | [], [] => true
  | (k, gs) :: r, (k', gs') :: r' => k == k' && sameGroups gs gs' && sameEntries r r'
  | _, _ => false

def sameGroups : List Group → List Group → Bool
  | [], [] => true
  | ⟨t, ms⟩ :: r, ⟨t', ms'⟩ :: r' => t == t' && sameMembers ms ms' && sameGroups r r'
  | _, _ => false

def sameMembers : List Doc → List Doc → Bool
  | [], [] => true
  | d :: r, d' :: r' => same d d' && sameMembers r r'
  | _, _ => false

end

end Doc

end CrateDocs
