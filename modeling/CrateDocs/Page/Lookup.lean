import CrateDocs.Page.Heading
import CrateDocs.Selector.Match
import CrateDocs.Selector.Parser

/-!
Looking things up on a page: the link to an item on the page that lists all items, and the heading
of a member on the page of its item. A member's heading is looked for with a selector that has the
name of the member in quotes.
-/

namespace CrateDocs.Page

open Markup

inductive Error where
  | noMember (name : Name)
  | noDefinition (name : Name)
  | selector (fault : Selector.Fault)
  | kind (unknown : Kind.Unknown)
  | tooDeep
  deriving DecidableEq

/-- A page whose elements nest too deeply has texts that cannot be collected. `Ref.load` asks for this
before it reads a page; what is said of the readers of a page is said of pages that pass it. -/
def check (p : Page) : Except Error Unit :=
  if Markup.visibleLimit < p.document.height then .error .tooDeep else .ok ()

def linkLayout (layout cls : String) : Layout (Document × String) String :=
  ⟨layout, fun (d, name) =>
    let inListing (p : Place) : Bool := p.node.isNamed ["a"] &&
      p.ancestors.any fun li => li.node.isNamed ["li"] &&
        li.ancestors.any fun ul => ul.node.isNamed ["ul"] && ul.node.hasClass cls
    let link := d.places.find? fun p => inListing p && p.node.content == name
    (link.bind fun p => p.node.get? "href").filter fun href => !href.isEmpty⟩

def itemLayouts : List (Layout (Document × String) String) :=
  [linkLayout "docblock list" "docblock", linkLayout "all-items list" "all-items"]

def findItem? (p : Page) (item : String) : Option String :=
  (Layout.first itemLayouts (p.document, item)).map Prod.snd

def findItemEvents (p : Page) (item : String) : List Event :=
  [Layout.report "find item" (Layout.first itemLayouts (p.document, item))]

def memberSelector (k : Kind) (name : String) : String :=
  "[id=\"" ++ Anchor.text k name ++ "\"]"

def select? (d : Document) (selector : String) : Except Error (Option Place) :=
  match Selector.parse selector with
  | .ok c => (c.first? d).mapError .selector
  | .error f => .error (.selector f)

def findMember? (p : Page) (name : Name) : Except Error (Option Kind) := do
  let found ← select? p.document
    (", ".intercalate (Kind.members.map fun k => memberSelector k name.last))
  match found with
  | none => return none
  | some h =>
    match h.node.anchorToken? with
    | none => throw (.kind .missing)
    | some t =>
      match Kind.ofToken t with
      | .ok k => return some k
      | .error u => throw (.kind u)

def descriptionOf? (heading : Place) : Option Node :=
  let next := match heading.next? with
    | some n => some n
    | none =>
      (heading.parent?.filter fun (q : Place) => q.node.isNamed ["summary"]).bind Place.next?
  (next.map Place.node).filter Node.isDocblock

def memberHeading (p : Page) (name : Name) (k : Kind) : Except Error Place := do
  match ← select? p.document (memberSelector k name.last) with
  | some h => return h
  | none => throw (.noMember name)

def memberDoc (p : Page) (name : Name) (k : Kind) : Except Error Doc := do
  let h ← memberHeading p name k
  match Layout.first definitionLayouts h.node with
  | none => throw (.noDefinition name)
  | some (_, code) =>
    return p.locate (some (Anchor.text k name.last))
      (.leaf name k (some code.visible) ((descriptionOf? h).bind Prose.ofNode?))

def memberEvents (p : Page) (name : Name) (k : Kind) : List Event :=
  event ("Parsing member documentation for '" ++ name.text ++ "'") ::
    match memberHeading p name k with
    | .ok h => [definitionReport h.node]
    | .error _ => []

def Error.message : Error → String
  | noMember n => "Could not find member " ++ n.text
  | noDefinition n => "The member " ++ n.text ++ " does not have a definition"
  | selector _ => "The name cannot be used in a selector"
  | kind u => u.message
  | tooDeep => "The page nests too deeply"

end CrateDocs.Page
