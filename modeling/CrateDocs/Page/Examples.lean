import CrateDocs.Page.Basic
import CrateDocs.Markup.Tree

/-!
The examples on a page. The paragraph before an example is its caption if it ends in a colon.
-/

namespace CrateDocs

open Markup

namespace Page

def captionOf? (p : Place) : Option Node :=
  let wrapper := p.parent?.filter fun q => q.node.hasClass "example-wrap"
  ((wrapper.getD p).previous?.map Place.node).filter fun n =>
    n.visible.toList.getLast? == some ':'

def example? (p : Place) : Option Example :=
  if p.node.hasClass "rust-example-rendered" then
    some ⟨p.node.visible, (captionOf? p).bind Prose.ofNode?⟩
  else none

def examples (d : Document) : List Example := d.places.filterMap example?

end Page

def Doc.examples (d : Doc) : Except Fault (List Example) :=
  match d.description with
  | some p => (Document.parse p.markup.toList).map Page.examples
  | none => .ok []

end CrateDocs
