import CrateDocs.Page.Heading

namespace CrateDocs.Page

open Markup

structure ImplList where
  id : String
  layouts : List (Layout Node Node)

/-- The titles of implementations with the lists that may hold them. Pages that have no list of
trait implementations may have them among all implementations. -/
def implLists : List (String × List ImplList) :=
  [("Trait Implementations", [⟨"trait-implementations-list", traitLayouts⟩,
      ⟨"implementations-list", [plainTraitLayout]⟩]),
    ("Auto Trait Implementations", [⟨"synthetic-implementations-list", traitLayouts⟩]),
    ("Blanket Implementations", [⟨"blanket-implementations-list", traitLayouts⟩])]

def readImpl (layouts : List (Layout Node Node)) (n : Node) : Trail Step :=
  let found := Layout.first layouts n
  .note (Layout.report "trait impl heading" found) ++ match found with
    | some (_, h) =>
      .note (definitionReport h) ++
        .found (.start ((h.search fun m => m.isNamed ["a"]).map Node.visible)
          (some (definition h)))
    | none => []

def readImpls (d : Document) (lists : List ImplList) : Trail Step :=
  match lists.findSome? fun l => (d.byId? l.id).map fun p => (l.layouts, p.node) with
  | some (layouts, n) => n.childElements.flatMap (readImpl layouts)
  | none => []

def implGroup (d : Document) (parent : Name) (title : String) (lists : List ImplList) :
    Trail (MemberGroup Doc) :=
  let t := readImpls d lists
  (t.events.map .inl) ++
    ((((Listing.empty parent .impl).run (t.items ++ [.finish])).sort.group
      (some title)).toList.map .inr)

def implGroups (d : Document) (parent : Name) : Trail (MemberGroup Doc) :=
  implLists.flatMap fun (title, lists) => implGroup d parent title lists

end CrateDocs.Page
