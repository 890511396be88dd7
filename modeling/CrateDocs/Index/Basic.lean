import CrateDocs.Index.Hit
import CrateDocs.Index.Package

/-!
Search indexes: the packages of a source of documentation by name. A search gives the items whose
full name is the keyword, or ends in it after a separator.
-/

namespace CrateDocs

structure Index where
  packages : List (String × Index.Package)

namespace Index

def Package.owner (p : Package) (path : String) (e : Entry) : String :=
  match p.parentName? e with
  | some parent => if parent.isEmpty then path else path ++ "::" ++ parent
  | none => path

/-- Entries with the paths that own them. Associated types have no page and are left out, but their
paths are in force for the entries after them. -/
def Package.ownedFrom (p : Package) (path : String) : List Entry → List (Entry × String)
  | [] => []
  | e :: r =>
    let path := if e.path.isEmpty then path else e.path
    if e.kind = .assocType then p.ownedFrom path r
    else (e, p.owner path e) :: p.ownedFrom path r

/-- The first path of a package is its name. -/
def entries (x : Index) : List (Entry × String) :=
  x.packages.flatMap fun (name, p) => p.ownedFrom name p.entries

def nameOf (e : Entry × String) : Name := (Name.mk e.2).child e.1.name

def hitOf (e : Entry × String) : Hit := ⟨e.2, e.1.name, e.1.description, some e.1.kind⟩

def find (x : Index) (keyword : String) : List Hit :=
  Hit.sort ((x.entries.filter fun e => (nameOf e).endsWith keyword).map hitOf)

def names (x : Index) : List String :=
  sortedSet (fun a b => decide (a ≤ b)) (x.entries.map fun e => (nameOf e).text)

end Index

end CrateDocs
