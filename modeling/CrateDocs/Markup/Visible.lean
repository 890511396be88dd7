import CrateDocs.Markup.Node

/-!
The text of a tree: all of it as it stands, or the text that a reader sees, with blocks of
documentation on lines of their own.
-/

namespace CrateDocs.Markup

def TextKind.isHidden : TextKind → Bool
  | .comment | .cdata | .instruction | .declaration | .doctype => true
  | _ => false

def TextKind.counts (element : String) : TextKind → Bool
  | .plain | .cdata => !(["rt", "rp", "style", "script", "template"].contains element)
  | .ruby => element == "rt"
  | .rubyParen => element == "rp"
  | .stylesheet => element == "style"
  | .script => element == "script"
  | .template => element == "template"
  | _ => false

mutual

def Node.strings (counts : TextKind → Bool) : Node → List String
  | .text k s => if counts k then [s] else []
  | .element _ _ cs => stringsOf counts cs

def stringsOf (counts : TextKind → Bool) : List Node → List String
  | [] => []
  | n :: r => n.strings counts ++ stringsOf counts r

end

def Node.content : Node → String
  | .text _ s => s
  | .element name _ cs => String.join (stringsOf (TextKind.counts name) cs)

def Document.content (d : Document) : String :=
  String.join (stringsOf (TextKind.counts "") d.children)

def skippedClasses : List String := ["notable-traits", "anchor"]

def Node.isSkipped (n : Node) : Bool := skippedClasses.any n.hasClass

def Node.isDocblock (n : Node) : Bool := n.hasClass "docblock"

namespace Visible

/-- Ends the line, if there is one. Texts are kept backwards. -/
def endLine : List Char → List Char
  | [] => []
  | '\n' :: r => '\n' :: r
  | r => '\n' :: r

def isBreak (n : Node) : Bool := n.isNamed ["br"]

def enter (n : Node) (out : List Char) : List Char :=
  if isBreak n then '\n' :: out
  else if n.hasClass "fmt-newline" || n.isDocblock then endLine out
  else out

def leave (n : Node) (out : List Char) : List Char := if n.isDocblock then endLine out else out

mutual

def node (out : List Char) : Node → List Char
  | .text k s => if k.isHidden then out else s.toList.reverse ++ out
  | .element name as cs =>
    if (Node.element name as cs).isSkipped then out
    else leave (.element name as cs) (nodes (enter (.element name as cs) out) cs)

def nodes (out : List Char) : List Node → List Char
  | [] => out
  | n :: r => nodes (node out n) r

end

end Visible

/-- What a reader sees is collected if at most so many elements stand inside each other. -/
def visibleLimit : Nat := 990

def Node.visible (n : Node) : String := String.ofList (Text.trim (Visible.node [] n).reverse)

def Document.visible (d : Document) : String :=
  String.ofList (Text.trim (Visible.nodes [] d.children).reverse)

end CrateDocs.Markup
