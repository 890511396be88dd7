import CrateDocs.Selector.Frame

/-!
The direction of elements: the one that an element states, the one that its text shows, or the one
of the element around it. The outermost element of a document runs from left to right.
-/

namespace CrateDocs.Selector.Direction

open Markup Text

inductive Stated where
  | nothing
  | byText
  | fixed (d : Text.Direction)

def stated (n : Node) : Stated :=
  match (attribute? "dir" n).map asciiLower with
  | some "ltr" => .fixed .leftToRight
  | some "rtl" => .fixed .rightToLeft
  | some "auto" => .byText
  | _ => .nothing

/-- Elements whose text does not show the direction of the elements around them. -/
def aloof : List String := ["bdi", "script", "style", "textarea", "iframe"]

mutual

def shown? : Node → Option Text.Direction
  | .text k s => if k.isHidden then none else Direction.ofText? s.toList
  | .element n as cs =>
    match stated (.element n as cs) with
    | .nothing => if aloof.contains (asciiLower n) then none else shownIn? cs
    | _ => none

def shownIn? : List Node → Option Text.Direction
  | [] => none
  | n :: r => (shown? n).or (shownIn? r)

end

def textInputs : List String := ["text", "search", "tel", "url", "email"]

def typed? (n : Node) : Option String :=
  if nameOf n == "textarea" then some (String.join (ownTexts true n))
  else if nameOf n == "input" &&
      textInputs.contains (asciiLower ((attribute? "type" n).getD "")) then
    some ((attribute? "value" n).getD "")
  else none

def isPhone (n : Node) : Bool :=
  nameOf n == "input" && asciiLower ((attribute? "type" n).getD "") == "tel"

def ofContent? (n : Node) : Option Text.Direction :=
  match typed? n with
  | some v =>
    if v.isEmpty then none else some ((Direction.ofText? v.toList).getD .leftToRight)
  | none => shownIn? n.children

def of? : Place → Option Text.Direction
  | .top _ => none
  | .under p b n a =>
    let outermost := isOutermost (.under p b n a)
    let inherited := if outermost then some .leftToRight else of? p
    match stated n with
    | .fixed d => some d
    | .byText => (ofContent? n).or inherited
    | .nothing =>
      if outermost || isPhone n then some .leftToRight
      else if nameOf n == "bdi" then (shownIn? n.children).or inherited
      else inherited

end CrateDocs.Selector.Direction
