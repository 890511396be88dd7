import CrateDocs.Item.Kind
import CrateDocs.Item.Name

/-!
What a search index says about one package: its entries, in order, and the names that they may have
as their parent.
-/

namespace CrateDocs.Index

/-- An item in an index. An empty path repeats the path of the entry before it. -/
structure Entry where
  kind : Kind
  name : String
  path : String
  description : String
  parent : Option Int
  deriving DecidableEq

structure Package where
  entries : List Entry
  parents : List (Int × String)
  deriving DecidableEq

/-- The name of the parent of an entry; a number that leads nowhere stands for no parent. -/
def Package.parentName? (p : Package) (e : Entry) : Option String :=
  e.parent.bind fun i =>
    if 0 ≤ i then (p.parents[i.toNat]?).map Prod.snd else none

end CrateDocs.Index
