import CrateDocs.Item.Kind
import CrateDocs.Item.Name
import CrateDocs.Order

namespace CrateDocs

structure Hit where
  path : String
  name : String
  description : String
  kind : Option Kind
  deriving DecidableEq

namespace Hit

def fullName (h : Hit) : Name :=
  if h.path.isEmpty then ⟨h.name⟩ else (Name.mk h.path).child h.name

def summary (h : Hit) : String :=
  if h.description.isEmpty then h.fullName.text else h.fullName.text ++ ": " ++ h.description

def kindRank (h : Hit) : Nat := (h.kind.map fun k => k.rank + 1).getD 0

def precedes (a b : Hit) : Bool :=
  if a.path ≠ b.path then decide (a.path < b.path)
  else if a.name ≠ b.name then decide (a.name < b.name)
  else if a.description ≠ b.description then decide (a.description < b.description)
  else decide (a.kindRank ≤ b.kindRank)

def sort (hs : List Hit) : List Hit := sortedSet precedes hs

/-- A hit of unknown kind has no place among hits that differ from it in their kind only. -/
def isOrdered (hs : List Hit) : Bool :=
  hs.all fun a => a.kind.isSome || hs.all fun b =>
    b.kind.isNone || a.path != b.path || a.name != b.name || a.description != b.description

end Hit

end CrateDocs
