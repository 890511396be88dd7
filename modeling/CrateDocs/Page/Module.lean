import CrateDocs.Page.Item

/-!
The page of a module: its description and its items by kind. The items stand after the heading of
their kind in a table, in a container of pairs or rows, or in a list.
-/

namespace CrateDocs.Page

open Markup

structure Entry where
  name : String
  description : Option Node

def Entry.doc (parent : Name) (k : Kind) (e : Entry) : Doc :=
  .leaf (parent.child e.name) k none (e.description.bind Prose.ofNode?)

def trimmed (s : String) : String := String.ofList (Text.trim s.toList)

def nameIn (n : Node) : String := trimmed n.content

def headed? (k : Kind) (is : Node → Bool) (d : Document) : Option Place :=
  d.places.find? fun p =>
    is p.node && p.previous?.any fun h => h.node.id? == some k.groupId

def isFirst (p : Place) : Bool := p.previous?.isNone

def isFirstInRow (p : Place) : Bool :=
  isFirst p && p.parent?.any fun q => q.node.isNamed ["td"] && isFirst q

def tableEntries (k : Kind) (d : Document) : List Entry :=
  match headed? k (Node.isNamed ["table"]) d with
  | some t => (t.descendants.filter isFirstInRow).map fun p =>
      ⟨nameIn p.node, (p.parent?.bind Place.next?).map Place.node⟩
  | none => []

def pairs : List Node → List (Node × Node)
  | a :: b :: r => (a, b) :: pairs r
  | _ => []

def rowPair? (row : Node) : Option (Node × Node) :=
  match row.childElements with
  | a :: b :: _ => some (a, b)
  | _ => none

def itemPairs (container : Node) : List (Node × Node) :=
  let children := container.childElements
  let rows := children.filter fun n => n.hasClass "item-row"
  if rows.isEmpty then pairs children else rows.filterMap rowPair?

def pairEntries (k : Kind) (d : Document) : List Entry :=
  match headed? k (fun n => n.isNamed ["div"] && n.hasClass "item-table") d with
  | some c => (itemPairs c.node).filterMap fun (a, b) =>
      if a.hasClass "module-item" && b.hasClass "docblock-short" then some ⟨nameIn a, some b⟩
      else none
  | none => []

def listEntry? (n : Node) : Option Entry :=
  if n.isNamed ["li"] then
    (n.search fun m => m.isNamed ["div"] && m.hasClass "item-name").map fun item =>
      ⟨nameIn ((item.search fun m => m.isNamed ["a"]).getD item),
        n.search fun m => m.isNamed ["div"] && m.hasClass "desc"⟩
  else none

def listEntries (k : Kind) (d : Document) : List Entry :=
  match headed? k (fun n => n.isNamed ["ul"] && n.hasClass "item-table") d with
  | some c => c.node.childElements.filterMap listEntry?
  | none => []

/-- A layout that gives a list applies if the list is not empty. -/
def listLayout (name : String) (read : Document → List β) : Layout Document (List β) :=
  ⟨name, fun d => if (read d).isEmpty then none else some (read d)⟩

def entryLayouts (k : Kind) : List (Layout Document (List Entry)) :=
  [listLayout "member table" (tableEntries k), listLayout "item table" (pairEntries k),
    listLayout "item list" (listEntries k)]

def entries (k : Kind) (d : Document) : List Entry :=
  ((Layout.first (entryLayouts k) d).map Prod.snd).getD []

def moduleKinds : List Kind :=
  [.externCrate, .reexport, .primitive, .module, .declMacro, .struct, .enum, .constant, .static,
    .trait, .function, .typeAlias, .union]

def moduleDescriptionLayouts : List (Layout Document Node) :=
  [placeLayout "collapsible top doc" fun p =>
      p.node.isDocblock && p.parent?.any fun q =>
        q.node.isNamed ["details"] && q.node.hasClass "top-doc",
    placeLayout "first docblock" fun p => p.node.isDocblock]

def entryGroups (d : Document) (parent : Name) (k : Kind) : List (MemberGroup Doc) :=
  let es := entries k d
  if es.isEmpty then [] else [⟨none, es.map (Entry.doc parent k)⟩]

def moduleDoc (p : Page) (name : Name) : Doc :=
  moduleKinds.foldl (fun d k => d.withGroups k (entryGroups p.document name k))
    (p.locate none (.leaf name .module none
      ((Layout.first moduleDescriptionLayouts p.document).bind fun f => Prose.ofNode? f.2)))

def moduleEvents (p : Page) (name : Name) : List Event :=
  event ("Parsing module documentation for '" ++ name.text ++ "'") ::
    Layout.report "module description" (Layout.first moduleDescriptionLayouts p.document) ::
    moduleKinds.map fun k =>
      Layout.report (k.groupId ++ " members") (Layout.first (entryLayouts k) p.document)

end CrateDocs.Page
