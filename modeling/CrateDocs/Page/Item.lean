import CrateDocs.Page.Implementations
import CrateDocs.Page.Members

namespace CrateDocs.Page

open Markup

def placeLayout (name : String) (p : Place → Bool) : Layout Document Node :=
  ⟨name, fun d => (d.places.find? p).map Place.node⟩

def isPre (n : Node) (c : String) : Bool := n.isNamed ["pre"] && n.hasClass c

/-- The declaration of an item stands in a block that belongs to some kinds, or in a general one. -/
def kindLayout : Kind → Layout Document Node
  | .constant => placeLayout "constant block" fun p => isPre p.node "const"
  | .function => placeLayout "function block" fun p => isPre p.node "fn"
  | .typeAlias => placeLayout "typedef block" fun p => isPre p.node "typedef"
  | _ => placeLayout "type declaration block" fun p =>
    p.node.hasClass "docblock" && p.node.hasClass "type-decl"

def declarationLayouts (k : Kind) : List (Layout Document Node) :=
  [kindLayout k,
    placeLayout "item declaration" fun p => isPre p.node "rust" && p.node.hasClass "item-decl",
    placeLayout "wrapped item declaration" fun p =>
      p.node.isNamed ["pre"] && p.ancestors.any fun a => a.node.hasClass "item-decl"]

def inTopDoc (id : String) (p : Place) : Bool :=
  p.node.isDocblock && !p.node.hasClass "type-decl" &&
    match p.parent? with
    | some q => q.node.isNamed ["details"] && q.node.hasClass "top-doc" &&
        q.parent?.any fun m => m.node.id? == some id
    | none => false

def descriptionLayouts : List (Layout Document Node) :=
  [placeLayout "collapsible top doc" (inTopDoc "main"),
    placeLayout "collapsible top doc in main content" (inTopDoc "main-content"),
    placeLayout "plain top doc" fun p =>
      p.node.isDocblock && !p.node.hasClass "type-decl" && !p.node.hasClass "item-decl" &&
        p.parent?.any fun m => m.node.id? == some "main"]

def memberGroups (d : Document) (parent : Name) : List (Kind × Trail (MemberGroup Doc)) :=
  [(.variant, variantGroups d parent), (.field, fieldGroups d parent),
    (.assocType, assocTypeGroups d parent), (.method, methodGroups d parent),
    (.impl, implGroups d parent)]

def declaration? (k : Kind) (d : Document) : Option String :=
  (Layout.first (declarationLayouts k) d).map fun f => f.2.visible

def description? (d : Document) : Option Prose :=
  (Layout.first descriptionLayouts d).bind fun f => Prose.ofNode? f.2

def itemDoc (p : Page) (name : Name) (k : Kind) : Doc :=
  (memberGroups p.document name).foldl (fun d e => d.withGroups e.1 e.2.items)
    (p.locate none (.leaf name k (declaration? k p.document) (description? p.document)))

def itemEvents (p : Page) (name : Name) (k : Kind) : List Event :=
  event ("Parsing item documentation for '" ++ name.text ++ "'") ::
    Layout.report (k.token ++ " definition") (Layout.first (declarationLayouts k) p.document) ::
    Layout.report "item description" (Layout.first descriptionLayouts p.document) ::
    (memberGroups p.document name).flatMap fun e => e.2.events

end CrateDocs.Page
