import CrateDocs.Markup.Node

/-!
Places in a document: a node together with its siblings and the place of its parent. The places of
all elements, in document order, are what searches run over.
-/

namespace CrateDocs.Markup

/-- The document itself, or a node below another place. The nodes before it come nearest first. -/
inductive Place where
  | top (nodes : List Node)
  | under (parent : Place) (before : List Node) (node : Node) (after : List Node)

namespace Place

def node : Place → Node
  | top nodes => .element "[document]" [] nodes
  | under _ _ n _ => n

def parent? : Place → Option Place
  | top _ => none
  | under p _ _ _ => some p

def before : Place → List Node
  | top _ => []
  | under _ b _ _ => b

def after : Place → List Node
  | top _ => []
  | under _ _ _ a => a

/-- How many nodes are before a place and before each place around it: no two places of a document
have the same numbers. -/
def path : Place → List Nat
  | top _ => []
  | under p b _ _ => b.length :: p.path

def ancestors : Place → List Place
  | top _ => []
  | under p _ _ _ => p :: p.ancestors

def elementsFrom (parent : Place) (before : List Node) : List Node → List Place
  | [] => []
  | n :: r =>
    if n.isElement then under parent before n r :: elementsFrom parent (n :: before) r
    else elementsFrom parent (n :: before) r

def childElements (p : Place) : List Place := elementsFrom p [] p.node.children

def following : Place → List Place
  | top _ => []
  | under p b n a => elementsFrom p (n :: b) a

def next? (p : Place) : Option Place := p.following.head?

def elementsBefore (parent : Place) : List Node → List Node → List Place
  | [], _ => []
  | n :: r, after =>
    if n.isElement then under parent r n after :: elementsBefore parent r (n :: after)
    else elementsBefore parent r (n :: after)

def preceding : Place → List Place
  | top _ => []
  | under p b n a => elementsBefore p b (n :: a)

def previous? (p : Place) : Option Place := p.preceding.head?

mutual

def ofNode (parent : Place) (before : List Node) (after : List Node) : Node → List Place
  | .text .. => []
  | .element n as cs =>
    under parent before (.element n as cs) after ::
      ofNodes (under parent before (.element n as cs) after) [] cs

def ofNodes (parent : Place) (before : List Node) : List Node → List Place
  | [] => []
  | n :: r => ofNode parent before r n ++ ofNodes parent (n :: before) r

end

def descendants (p : Place) : List Place := ofNodes p [] p.node.children

end Place

def Document.places (d : Document) : List Place := (Place.top d.children).descendants

def Document.byId? (d : Document) (id : String) : Option Place :=
  d.places.find? fun p => p.node.id? == some id

end CrateDocs.Markup
