import CrateDocs.Index.Load
import CrateDocs.Settings.Environment
import CrateDocs.Source.Crate
import CrateDocs.Suggest.Grouped

/-!
Sources of documentation: folders that hold a folder for each package, and a search index. The
source that was added last is searched first. The search indexes of all sources are read together,
when a search needs them, and are kept until a source is added.
-/

namespace CrateDocs

namespace Source

/-- The package with a name in a source, if it has a list of items or a module page. -/
def findCrate (source : Path) (name : String) : Plan Error (Option Crate) := do
  let path := source.child (Crate.itemName name)
  if ← isFile (path.child "all.html") then
    return some ⟨Crate.itemName name, path⟩
  if ← isFile (path.child "index.html") then
    return some ⟨Crate.itemName name, path⟩
  return none

def isIndexName (s : String) : Bool :=
  let r := s.toList.drop "search-index".length
  "search-index".toList.isPrefixOf s.toList && ".js".toList.isSuffixOf r

def firstFile : List Path → Plan Error (Option Path)
  | [] => return none
  | p :: r => do
    if ← isFile p then return some p else firstFile r

def loadIndex (source : Path) : Plan Error (Option Index) := do
  let names := ((← entries source).filter isIndexName).mergeSort fun a b => decide (a ≤ b)
  match ← firstFile (names.map source.child) with
  | none =>
    .notes [.detailed .debug .source "no search index in source" [("path", Crate.quoted source)]]
    return none
  | some p =>
    .notes [.detailed .debug .source "loading search index" [("path", Crate.quoted p)]]
    .ofTraced ((Index.ofBytes p (← readFile p)).mapError .index)

end Source

open Source (Error)

/-- Sources in the order of search, and their search indexes if they have been read. -/
structure Sources where
  folders : List Path
  loaded : Option (List Index)

namespace Sources

def empty : Sources := ⟨[], none⟩

def add (s : Sources) (source : Path) : Sources := ⟨source :: s.folders, none⟩

def findCrate (s : Sources) (name : String) : Plan Error (Option Crate) :=
  .firstFound (s.folders.map fun f => Source.findCrate f name)

def find (s : Sources) (n : Name) (hint : Option Kind) : Plan Error (Option Ref) := do
  match ← s.findCrate n.first with
  | none =>
    .notes [.detailed .info .source "package not found" [("krate", Text.Quoted.quote n.first)]]
    return none
  | some c => c.find n hint

def readIndexes : List Path → Plan Error (List Index)
  | [] => return []
  | f :: r => do
    let x ← Source.loadIndex f
    let xs ← readIndexes r
    return x.toList ++ xs

/-- The search indexes of all sources. They are read unless they were read before. -/
def indexes (s : Sources) : Plan Error (List Index) :=
  match s.loaded with
  | some xs => return xs
  | none => readIndexes s.folders

def hits (xs : List Index) (keyword : String) : List Hit :=
  Hit.sort (xs.flatMap fun x => x.find keyword)

def names (xs : List Index) : List String :=
  sortedSet (fun a b => decide (a ≤ b)) (xs.flatMap Index.names)

def search (s : Sources) (keyword : String) : Plan Error (List Hit × Sources) := do
  let xs ← s.indexes
  let found := hits xs keyword
  .notes [.detailed .info .source "searched indexes" [("keyword", Text.Quoted.quote keyword),
    ("matches", toString found.length)]]
  return (found, { s with loaded := some xs })

def askedSimilarity : Float := 0.6

/-- The number of suggestions to give: the one that is asked for, unless it is zero. -/
def limitOf (standards : Standards) (asked : Option Int) : Int :=
  (asked.filter fun n => n ≠ 0).getD standards.suggestions

def suggest (standards : Standards) (s : Sources) (keyword : String) (asked : Option Int) :
    Plan Error (List String × Sources) := do
  let xs ← s.indexes
  let known := names xs
  let candidates := Suggest.candidates ⟨keyword⟩ known
  let limit := limitOf standards asked
  let found := Suggest.suggest standards.weights keyword limit askedSimilarity candidates
  .notes (Suggest.report keyword limit askedSimilarity candidates found)
  return (Suggest.suggestions ⟨keyword⟩ limit known found, { s with loaded := some xs })

def localFolder : Path := Path.ofString "target/doc"

def standardFolders (standards : Standards) : Plan Error (List Path) := do
  let report ← .question .compiler
  .notes [Toolchain.event standards.timeout report]
  .filter Source.isFolder
    (Toolchain.folders (Toolchain.root standards.sysroot report) ++ [localFolder])

def checkFolders : List Path → Plan Error Unit
  | [] => return ()
  | p :: r => do
    if ← Source.isFolder p then checkFolders r else .fail (.notFolder p)

def load (standards : Standards) (given : List Path) (withStandard : Bool) :
    Plan Error Sources := do
  let first ← if withStandard then standardFolders standards else pure []
  checkFolders given
  let s := (first ++ given).foldl add empty
  .notes [.detailed .debug .source "loaded sources"
    [("sources", "[" ++ ", ".intercalate (s.folders.map Crate.quoted) ++ "]")]]
  return s

end Sources

end CrateDocs
