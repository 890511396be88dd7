import CrateDocs.Log
import CrateDocs.Page.Basic
import CrateDocs.Page.Listing

/-!
Headings: the elements that name a member, a variant or a block of implementations, in the layouts
that pages have had.

Layouts. Pages of different age keep the same thing in different places, so a thing is looked for
under one layout after the other, and the first layout that has it is taken.
-/

namespace CrateDocs

structure Layout (α β : Type) where
  name : String
  find : α → Option β

namespace Layout

def first (l : List (Layout α β)) (a : α) : Option (String × β) :=
  l.findSome? fun y => (y.find a).map fun b => (y.name, b)

def report (site : String) (found : Option (String × β)) : Event :=
  ⟨.debug, .layout, match found with
    | some (n, _) => site ++ ": matched strategy '" ++ n ++ "'"
    | none => site ++ ": no strategy matched"⟩

@[simp] theorem first_nil (a : α) : first ([] : List (Layout α β)) a = none := rfl

theorem first_cons (y : Layout α β) (l : List (Layout α β)) (a : α) :
    first (y :: l) a = match y.find a with
      | some b => some (y.name, b)
      | none => first l a := by
  simp only [first, List.findSome?_cons]
  cases y.find a <;> rfl

end Layout

end CrateDocs

namespace CrateDocs.Page

open Markup

def definitionLayouts : List (Layout Node Node) :=
  [⟨"code element", Node.search fun n => n.isNamed ["code"]⟩,
    ⟨"code header", Node.search fun n => n.hasClass "code-header"⟩]

/-- The declaration in a heading; without a better place it is the heading itself. -/
def definition (heading : Node) : String :=
  match Layout.first definitionLayouts heading with
  | some (_, n) => n.visible
  | none => heading.visible

def definitionReport (heading : Node) : Event :=
  Layout.report "member definition" (Layout.first definitionLayouts heading)

def startAt (heading : Node) : Trail Step :=
  .note (definitionReport heading) ++
    .found (.start heading.anchorName? (some (definition heading)))

def memberClasses : List String := ["method", "associatedtype", "associatedconstant"]

def isMemberClass (n : Node) : Bool := memberClasses.any n.hasClass

def isCodeSection (n : Node) : Bool :=
  n.isNamed ["div", "section"] && isMemberClass n &&
    n.childElements.any fun c => c.hasClass "code-header"

def memberLayouts : List (Layout Node Node) :=
  [⟨"heading element", fun n =>
      if n.isNamed ["h3", "h4"] && isMemberClass n then some n else none⟩,
    ⟨"code header section", fun n => if isCodeSection n then some n else none⟩]

def variantLayouts : List (Layout Node Node) :=
  [⟨"variant heading", fun n =>
    if n.isNamed ["div", "section", "h3"] && n.hasClass "variant" then some n else none⟩]

/-- The heading of a block of implementations. Its items come after it on the same level, or inside
the same element after the summary that holds the heading. -/
inductive BlockHeading where
  | plain (title : Node)
  | summarized (title : Node) (next : Option Node)

def isImplHeading (n : Node) : Bool := n.isNamed ["h3"] && n.hasClass "impl"

def summary? (n : Node) : Option (Node × Option Node) :=
  if n.isNamed ["details"] then
    match n.childElements with
    | s :: r => some (s, r.head?)
    | [] => none
  else none

def summarizedLayout : Layout Node BlockHeading :=
  ⟨"impl details", fun n => (summary? n).bind fun (s, next) =>
    (s.search fun h => h.isNamed ["h3"]).map fun h => .summarized h next⟩

def blockLayouts : List (Layout Node BlockHeading) :=
  [⟨"impl heading", fun n => if isImplHeading n then some (.plain n) else none⟩, summarizedLayout]

def plainTraitLayout : Layout Node Node :=
  ⟨"impl heading", fun n => if isImplHeading n then some n else none⟩

def traitLayouts : List (Layout Node Node) :=
  [⟨"impl details", fun n => (summary? n).bind fun (s, _) =>
      s.search fun h => h.isNamed ["h3"] && (h.hasClass "impl" || h.hasClass "code-header")⟩,
    plainTraitLayout,
    ⟨"impl wrapper", fun n =>
      if n.isNamed ["div", "section"] && n.hasClass "impl" then
        n.search fun h => h.isNamed ["h3"]
      else none⟩]

end CrateDocs.Page
