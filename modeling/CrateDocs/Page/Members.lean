import CrateDocs.Page.Heading

namespace CrateDocs.Page

open Markup

def readRun (read : Node → Trail Step × Bool) : List Node → Trail Step
  | [] => []
  | n :: r =>
    let (t, more) := read n
    t ++ if more then readRun read r else []

def after (p : Place) : List Node := p.after.filter Node.isElement

def describeBy (n : Node) : Trail Step := .found (.describe (Prose.ofNode? n))

def readBlock (n : Node) : Trail Step × Bool :=
  if n.isNamed ["div"] then (if n.isDocblock then describeBy n else [], true) else ([], false)

def readField (n : Node) : Trail Step × Bool :=
  if n.isNamed ["span"] && n.hasClass "structfield" then (startAt n, true) else readBlock n

def readVariant (n : Node) : Trail Step × Bool :=
  let found := Layout.first variantLayouts n
  let report := .note (Layout.report "variant heading" found)
  match found with
  | some (_, h) => (report ++ startAt h, true)
  | none => (report ++ (readBlock n).1, (readBlock n).2)

/-- The elements of a listing of variants, which one container may hold. -/
def variantElements : List Node → List Node
  | [] => []
  | n :: r =>
    if n.isNamed ["div"] && n.hasClass "variants" then n.childElements
    else n :: variantElements r

def fieldGroups (d : Document) (parent : Name) : Trail (MemberGroup Doc) :=
  match d.byId? Kind.field.groupId with
  | some h => Listing.collect parent .field none (readRun readField (after h))
  | none => []

def variantGroups (d : Document) (parent : Name) : Trail (MemberGroup Doc) :=
  match d.byId? Kind.variant.groupId with
  | some h => Listing.collect parent .variant none (readRun readVariant (variantElements (after h)))
  | none => []

def startWithin : List Node → Trail Step
  | [] => []
  | n :: r =>
    let found := Layout.first memberLayouts n
    .note (Layout.report "member heading" found) ++ match found with
      | some (_, h) => startAt h
      | none => startWithin r

def readDetails (n : Node) : Trail Step :=
  (match n.search fun m => m.isNamed ["summary"] with
    | some s => startWithin (s.descendants.filter fun m => m.isNamed ["div", "section"])
    | none => []) ++
  match n.search fun m => m.isNamed ["div"] && m.isDocblock with
  | some b => describeBy b
  | none => []

def readMember (n : Node) : Trail Step :=
  let found := Layout.first memberLayouts n
  .note (Layout.report "member heading" found) ++ match found with
    | some (_, h) => startAt h
    | none =>
      if n.isNamed ["div"] && n.isDocblock then describeBy n
      else if n.isNamed ["details"] then readDetails n
      else []

def memberGroup (parent : Name) (kind : Kind) (title : Option String) (container : Node) :
    Trail (MemberGroup Doc) :=
  Listing.collect parent kind title (container.childElements.flatMap readMember)

def blockTitle (heading : Node) : String :=
  match heading.firstChild? with
  | some c => if c.isNamed ["code"] then c.visible else heading.visible
  | none => heading.visible

def itemsOf? (next : Option Node) : Option Node :=
  next.filter fun n => n.isNamed ["div"] && n.hasClass "impl-items"

/-- The groups of blocks of implementations. An element that is no heading ends the blocks unless
`lenient`; one whose items have been read with a heading before it is passed over. -/
def blockGroups (parent : Name) (kind : Kind) (layouts : List (Layout Node BlockHeading))
    (lenient : Bool) (taken : Bool) : List Node → Trail (MemberGroup Doc)
  | [] => []
  | n :: r =>
    if taken then blockGroups parent kind layouts lenient false r
    else
      let found := Layout.first layouts n
      .note (Layout.report "impl heading" found) ++ match found with
        | none => if lenient then blockGroups parent kind layouts lenient false r else []
        | some (_, .plain h) =>
          match itemsOf? r.head? with
          | some items => memberGroup parent kind (some (blockTitle h)) items ++
              blockGroups parent kind layouts lenient true r
          | none => blockGroups parent kind layouts lenient false r
        | some (_, .summarized h next) =>
          (match itemsOf? next with
            | some items => memberGroup parent kind (some (blockTitle h)) items
            | none => []) ++
          blockGroups parent kind layouts lenient false r

def sectionGroups (parent : Name) (heading : Place) : Trail (MemberGroup Doc) :=
  match after heading with
  | [] => []
  | n :: r =>
    if n.id? = some "implementations-list" then
      blockGroups parent .method [summarizedLayout] true false n.childElements
    else blockGroups parent .method blockLayouts false false (n :: r)

def blockSections : List String := ["methods", "implementations"]

def derefId : String := "deref-methods"

def isDerefHeading (n : Node) : Bool :=
  n.isNamed ["h2"] && (n.id? == some derefId ||
    (n.id?.any fun s => (derefId ++ "-").toList.isPrefixOf s.toList))

def headedGroups (parent : Name) (kind : Kind) (title : Node → Option String)
    (headings : List Place) : Trail (MemberGroup Doc) :=
  headings.flatMap fun h =>
    match (after h).head? with
    | some n => memberGroup parent kind (title h.node) n
    | none => []

def methodGroups (d : Document) (parent : Name) : Trail (MemberGroup Doc) :=
  (blockSections.flatMap fun id =>
    match d.byId? id with
    | some h => sectionGroups parent h
    | none => []) ++
  headedGroups parent .method (fun n => some n.visible)
    (d.places.filter fun p => isDerefHeading p.node) ++
  headedGroups parent .requiredMethod (fun _ => some "Required Methods")
    (withId "required-methods" d) ++
  headedGroups parent .method (fun _ => some "Provided Methods") (withId "provided-methods" d)

def assocTypeSections : List String := ["associated-types", "required-associated-types"]

def assocTypeGroups (d : Document) (parent : Name) : Trail (MemberGroup Doc) :=
  assocTypeSections.flatMap fun id =>
    headedGroups parent .assocType (fun _ => none) (d.byId? id).toList

end CrateDocs.Page
