import CrateDocs.Plan

/-!
A tree of files, as a world for plans: every file is known with its content, and every folder. Two
dots lead back from a folder that is there.
-/

namespace CrateDocs

/-- Places are given by the names that lead from the root to them. -/
structure Files where
  files : List (List String × List UInt8)
  folders : List (List String)

namespace Files

inductive Found where
  | file (content : List UInt8)
  | folder
  | missing
  | blocked
  | tooLong

def hasFolder (f : Files) (place : List String) : Bool :=
  place.isEmpty || (f.folders.any fun d => place.isPrefixOf d) ||
    f.files.any fun e => place.isPrefixOf e.1 && decide (place.length < e.1.length)

def look (f : Files) (place : List String) : Found :=
  match f.files.find? fun e => e.1 == place with
  | some e => .file e.2
  | none => if f.hasFolder place then .folder else .missing

def nameLimit : Nat := 255

def pathLimit : Nat := 4095

/-- Goes on from a place, which is kept last name first. Only in a folder names are looked for, and
then one that is too long is refused. -/
def walk (f : Files) (back : List String) : List String → Found
  | [] => f.look back.reverse
  | name :: r =>
    match f.look back.reverse with
    | .folder =>
      if nameLimit < Path.byteCount name then .tooLong
      else f.walk (if name = ".." then back.tail else name :: back) r
    | .file _ => .blocked
    | x => x

def find (f : Files) (here p : Path) : Found :=
  if pathLimit < Path.byteCount p.toString then .tooLong else f.walk [] (here.join p).parts

def holds (is : Found → Bool) (f : Files) (here p : Path) : Except ReadFault Bool :=
  if p.refused?.isSome then .ok false
  else
    match f.find here p with
    | .tooLong => .error .tooLong
    | x => .ok (is x)

def Found.isFile : Found → Bool
  | file _ => true
  | _ => false

def Found.isFolder : Found → Bool
  | folder => true
  | _ => false

def isFile (f : Files) (here p : Path) : Except ReadFault Bool := f.holds Found.isFile here p

def isFolder (f : Files) (here p : Path) : Except ReadFault Bool := f.holds Found.isFolder here p

def read (f : Files) (here p : Path) : Except ReadFault (List UInt8) :=
  match p.refused? with
  | some e => .error e
  | none =>
    match f.find here p with
    | .file content => .ok content
    | .folder => .error .folder
    | .missing => .error .missing
    | .blocked => .error .notFolder
    | .tooLong => .error .tooLong

def nameIn (folder place : List String) : Option String :=
  if folder.isPrefixOf place then place[folder.length]? else none

def entries (f : Files) (here p : Path) : Except ReadFault (List String) :=
  let folder := Path.collapse [] (here.join p).parts
  (f.isFolder here p).map fun there =>
    if there then ((f.files.map Prod.fst ++ f.folders).filterMap (nameIn folder)).eraseDups else []

def write (f : Files) (place : List String) (content : List UInt8) : Files :=
  { f with files := (place, content) :: f.files.filter fun e => e.1 != place }

/-- The world of a tree, with a compiler and a person who always say the same. -/
def world (f : Files) (here : Path) (compiler : Toolchain.Report) (person : String) : World
  | .isFile p => f.isFile here p
  | .isFolder p => f.isFolder here p
  | .read p => f.read here p
  | .entries p => f.entries here p
  | .here => here
  | .compiler => compiler
  | .person _ => person

end Files

end CrateDocs
