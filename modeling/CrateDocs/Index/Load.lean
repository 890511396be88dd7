import CrateDocs.Index.Basic
import CrateDocs.Index.Decode
import CrateDocs.Index.Wrapper

namespace CrateDocs.Index

open Json (Value)

def ofJsonError (source : Option Path) (s : List Char) : Json.Error → Error
  | .at f offset => .malformed source (.notJson f (Text.positionIn s offset))
  | .tooDeep => .tooDeep
  | .numeralTooLong => .numeralTooLong

def decodePackages (source : Option Path) :
    List (String × Value) → Traced Error (List (String × Package))
  | [] => pure []
  | (name, v) :: r => do
    let p ← decodePackage source name v
    let ps ← decodePackages source r
    return (name, p) :: ps

def shownPath (source : Option Path) : String :=
  match source with
  | some p => Text.Quoted.quote p.toString
  | none => "None"

def entryCount (packages : List (String × Package)) : Nat :=
  packages.foldl (fun n p => n + p.2.entries.length) 0

def ofText (source : Option Path) (s : List Char) : Traced Error Index :=
  match Json.parse s with
  | .error e => .fail (ofJsonError source s e)
  | .ok (.object ms) => do
    let packages ← decodePackages source ms
    .note (.detailed .info .index "loaded search index" [("path", shownPath source),
      ("crates", toString packages.length), ("items", toString (entryCount packages))])
    return ⟨packages⟩
  | .ok _ => .fail (.malformed source .notObject)

def ofBytes (path : Path) (bytes : List UInt8) : Traced Error (Option Index) :=
  match Text.Utf8.decode bytes with
  | .error f => .fail (.malformed (some path) (.notText f))
  | .ok s =>
    match Wrapper.content (Text.lines (Text.unifyLineEnds s)) with
    | .unterminated => .fail (.malformed (some path) .unterminated)
    | .found layout t => do
      .note (.detailed .debug .index "found search index payload"
        [("path", shownPath (some path)), ("layout", Text.Quoted.quote layout)])
      let x ← ofText (some path) (Wrapper.unescape t)
      return some x
    | .nothing => do
      .note (.detailed .info .index "no compatible search index found"
        [("path", shownPath (some path))])
      return none

end CrateDocs.Index
