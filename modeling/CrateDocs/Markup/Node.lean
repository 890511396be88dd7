import CrateDocs.Text.Blank
import CrateDocs.Markup.Token

/-!
Trees of a marked-up text: elements and texts. Attribute values that are lists of words are kept
with single spaces between the words.
-/

namespace CrateDocs.Markup

inductive Node where
  | element (name : String) (attributes : List Attribute) (children : List Node)
  | text (kind : TextKind) (content : String)

structure Document where
  children : List Node

def wordsOf (s : String) : List String := (Text.words s.toList).map String.ofList

def attribute? (name : String) (attributes : List Attribute) : Option String :=
  (attributes.find? fun a => a.name == name).map Attribute.value

namespace Node

def isElement : Node → Bool
  | element .. => true
  | text .. => false

def name? : Node → Option String
  | element n _ _ => some n
  | text .. => none

def isNamed (names : List String) : Node → Bool
  | element n _ _ => names.contains n
  | text .. => false

def attributes : Node → List Attribute
  | element _ as _ => as
  | text .. => []

def children : Node → List Node
  | element _ _ cs => cs
  | text .. => []

def get? (name : String) (n : Node) : Option String := attribute? name n.attributes

def id? (n : Node) : Option String := n.get? "id"

def classes (n : Node) : List String := ((n.get? "class").map wordsOf).getD []

def hasClass (c : String) (n : Node) : Bool := n.classes.contains c

def childElements (n : Node) : List Node := n.children.filter isElement

def firstChild? (n : Node) : Option Node := n.children.find? isElement

mutual

def descendants : Node → List Node
  | element _ _ cs => elements cs
  | text .. => []

def elements : List Node → List Node
  | [] => []
  | n :: r => if n.isElement then n :: (descendants n ++ elements r) else elements r

end

mutual

def height : Node → Nat
  | element _ _ cs => heightOf cs + 1
  | text .. => 0

def heightOf : List Node → Nat
  | [] => 0
  | n :: r => max (height n) (heightOf r)

end

def search (p : Node → Bool) (n : Node) : Option Node := n.descendants.find? p

end Node

def Document.height (d : Document) : Nat := Node.heightOf d.children

/-- Trees are written in a nested form if at most so many elements stand inside each other. -/
def nestedLimit : Nat := 495

end CrateDocs.Markup
