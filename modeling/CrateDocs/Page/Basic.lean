import CrateDocs.Doc.Basic
import CrateDocs.Item.Anchor
import CrateDocs.Log
import CrateDocs.Markup.Place
import CrateDocs.Markup.Printer
import CrateDocs.Markup.Visible

/-!
Pages: documents that describe one item, or list items. A page that was read from a file has a URL,
which the documents taken from it get.
-/

namespace CrateDocs

open Markup

structure Page where
  document : Document
  url : Option String

def Prose.ofNode? (n : Node) : Option Prose :=
  let p : Prose := ⟨n.visible, n.innerMarkup⟩
  if p.plain.isEmpty && p.markup.isEmpty then none else some p

def Markup.Node.anchorPart? (part : List Char → Option (List Char)) (n : Node) : Option String :=
  match n.id? with
  | some s => if s.isEmpty then none else (part s.toList).map String.ofList
  | none => none

def Markup.Node.anchorToken? (n : Node) : Option String :=
  n.anchorPart? fun s => some (Anchor.token s)

def Markup.Node.anchorName? (n : Node) : Option String := n.anchorPart? Anchor.name?

namespace Page

/-- The places with an id. An id should be unique, but pages do not always keep to that. -/
def withId (id : String) (d : Document) : List Place :=
  d.places.filter fun p => p.node.id? == some id

def locate (p : Page) (anchor : Option String) (d : Doc) : Doc :=
  match p.url with
  | some u => d.withUrl u anchor
  | none => d

def event (message : String) : Event := ⟨.info, .page, message⟩

end Page

end CrateDocs
