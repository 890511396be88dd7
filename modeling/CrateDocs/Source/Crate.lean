import CrateDocs.Index.Error
import CrateDocs.Markup.Encoding
import CrateDocs.Page.Item
import CrateDocs.Page.Lookup
import CrateDocs.Page.Module
import CrateDocs.Plan

/-!
The documentation of one package, a folder with pages. The page `all.html` links to the page of
every item, the page of a module is the `index.html` of its folder, and a member is documented on
the page of its item.

Reading the pages of a source of documentation.
-/

namespace CrateDocs.Source

inductive Error where
  | notFolder (p : Path)
  | unreadable (p : Path) (fault : ReadFault)
  | markup (p : Path) (fault : Markup.Fault)
  | page (e : Page.Error)
  | index (e : Index.Error)

def Error.message : Error → String
  | notFolder p => "Documentation source is not a directory: '" ++ p.toString ++ "'"
  | unreadable p f => f.message p
  | markup p f => "The markup of '" ++ p.toString ++ "' cannot be read: " ++ f.message
  | page e => e.message
  | index e => e.message

def answered (p : Path) : Except ReadFault α → Plan Error α
  | .ok a => .done a
  | .error f => .fail (.unreadable p f)

def readFile (p : Path) : Plan Error (List UInt8) := do
  answered p (← .question (.read p))

def isFile (p : Path) : Plan Error Bool := do
  answered p (← .question (.isFile p))

def isFolder (p : Path) : Plan Error Bool := do
  answered p (← .question (.isFolder p))

def entries (p : Path) : Plan Error (List String) := do
  answered p (← .question (.entries p))

def replacedEvent : Event :=
  ⟨.warning, .encoding,
    "Some characters could not be decoded, and were replaced with REPLACEMENT CHARACTER."⟩

def readPage (p : Path) : Plan Error Page := do
  .notes [Page.event ("Reading HTML from file '" ++ p.toString ++ "'")]
  let (text, replaced) := Markup.decodePage (← readFile p)
  .notes (if replaced then [replacedEvent] else [])
  match Markup.Document.parse text with
  | .error f => .fail (.markup p f)
  | .ok d =>
    .notes [Page.event "HTML file parsed successfully"]
    let here ← .question .here
    return ⟨d, some (Path.fileUrl here p)⟩

end CrateDocs.Source

namespace CrateDocs

structure Ref where
  name : Name
  kind : Kind
  path : Path
  parent : Option Name
  deriving DecidableEq

structure Crate where
  name : String
  path : Path
  deriving DecidableEq

open Source (Error isFile readPage)

namespace Ref

def load (r : Ref) : Plan Error Doc := do
  let page ← readPage r.path
  .ofExcept (page.check.mapError .page)
  if r.parent.isSome then
    .notes (page.memberEvents r.name r.kind)
    .ofExcept ((page.memberDoc r.name r.kind).mapError .page)
  else if r.kind = .module then
    .notes (page.moduleEvents r.name)
    return page.moduleDoc r.name
  else
    .notes (page.itemEvents r.name r.kind)
    return page.itemDoc r.name r.kind

end Ref

namespace Crate

/-- The name that a package has in names of its items: hyphens are underscores there. -/
def itemName (name : String) : String :=
  String.ofList (name.toList.map fun c => if c = '-' then '_' else c)

def owns (c : Crate) (n : Name) : Bool := itemName n.first == c.name

def pageKind (p : Path) : Except Kind.Unknown Kind :=
  Kind.ofToken (String.ofList (Text.cutChar '.' p.name.toList).1)

def quoted (p : Path) : String := Text.Quoted.quote p.toString

def findItem (c : Crate) (n : Name) : Plan Error (Option Ref) := do
  let all := c.path.child "all.html"
  match c.owns n, n.rest? with
  | true, some item =>
    if !(← isFile all) then return none
    let page ← readPage all
    .notes (page.findItemEvents item)
    match page.findItem? item with
    | none => return none
    | some link =>
      let path := c.path.child link
      match pageKind path with
      | .error _ =>
        .notes [.detailed .warning .source "unexpected item link"
          [("crate", Text.Quoted.quote c.name), ("link", Text.Quoted.quote link)]]
        return none
      | .ok k =>
        .notes [.detailed .debug .source "found item page"
          [("item", Text.Quoted.quote n.text), ("path", quoted path)]]
        return some ⟨n, k, path, none⟩
  | _, _ => return none

def modulePage (c : Crate) (n : Name) : Path :=
  ((n.segments.tail).foldl Path.child c.path).child "index.html"

def findModule (c : Crate) (n : Name) : Plan Error (Option Ref) := do
  if !c.owns n then return none
  let path := c.modulePage n
  if !(← isFile path) then return none
  .notes [.detailed .debug .source "found module page"
    [("item", Text.Quoted.quote n.text), ("path", quoted path)]]
  return some ⟨n, .module, path, none⟩

def findMember (c : Crate) (n : Name) : Plan Error (Option Ref) := do
  match n.parent? with
  | none => return none
  | some parent =>
    match ← c.findItem parent with
    | none => return none
    | some item =>
      let page ← readPage item.path
      match ← .ofExcept ((page.findMember? n).mapError .page) with
      | none => return none
      | some k =>
        .notes [.detailed .debug .source "found member" [("item", Text.Quoted.quote n.text),
          ("ty", Text.Quoted.quote k.token), ("path", quoted item.path)]]
        return some ⟨n, k, item.path, some parent⟩

/-- The ways to find a name, in order. A member is looked for first if its kind says that it is
one. -/
def lookups (c : Crate) (n : Name) (hint : Option Kind) : List (Plan Error (Option Ref)) :=
  if hint.any fun k => Kind.members.contains k then [c.findMember n, c.findItem n, c.findModule n]
  else [c.findItem n, c.findModule n, c.findMember n]

def find (c : Crate) (n : Name) (hint : Option Kind) : Plan Error (Option Ref) :=
  .firstFound (c.lookups n hint)

end Crate

end CrateDocs
