import CrateDocs.Markup.Visible
import CrateDocs.Selector.Basic

/-!
Frames: elements that hold a document of their own. What is around an element, or inside it, may be
looked for within its document only; `closed` tells that frames are not looked into and not left.
-/

namespace CrateDocs.Selector

open Markup

def isFrame (n : Node) : Bool := nameOf n == "iframe"

def ancestors (closed : Bool) (p : Place) : List Place :=
  if closed then p.ancestors.takeWhile fun q => !isFrame q.node else p.ancestors

def children (closed : Bool) (p : Place) : List Place :=
  if closed && isFrame p.node then [] else p.childElements

def descendants (closed : Bool) (p : Place) : List Place :=
  if closed then
    p.descendants.filter fun q =>
      (q.ancestors.take (q.path.length - p.path.length)).all fun a => !isFrame a.node
  else p.descendants

def ownTexts (closed : Bool) (n : Node) : List String :=
  if closed && isFrame n then []
  else n.children.filterMap fun c => match c with
    | .text k s => if k.isHidden then none else some s
    | .element .. => none

mutual

def texts (closed : Bool) : Node → List String
  | .text k s => if k.isHidden then [] else [s]
  | .element n _ cs => if closed && asciiLower n == "iframe" then [] else textsOf closed cs

def textsOf (closed : Bool) : List Node → List String
  | [] => []
  | n :: r => texts closed n ++ textsOf closed r

end

def isOutermost : Place → Bool
  | .top _ => false
  | .under (.top _) before _ _ => before.all fun n => !n.isElement
  | .under p _ _ _ => isFrame p.node

/-- Whether something is no part of the content beside an outermost element. -/
def isNothing : Node → Bool
  | .element .. => false
  | .text .cdata _ => false
  | .text k s => k.isHidden || s.toList.all Text.isBlank

/-- Whether an element is all that its document has, apart from blanks and comments. -/
def isRoot (p : Place) : Bool :=
  isOutermost p && p.before.all isNothing && p.after.all isNothing

def isEmpty (n : Node) : Bool :=
  isFrame n || n.children.all fun c => match c with
    | .element .. => false
    | .text k s => k.isHidden || s.toList.all Text.isMarkupBlank

end CrateDocs.Selector
