import CrateDocs.Index.Error
import CrateDocs.Traced

/-!
Decoding the packages of a search index. The oldest form has a tuple for each item. The later forms
have a column for each property: the kinds of items are numbers, or the letters of one text; the
parents are counted from one, with zero for none; the paths are given in order, or for single items.
-/

namespace CrateDocs.Index

open Json (Value)

def parentEntry : Value → Except Rule (Int × String)
  | .list (.int n :: .text s :: _) => .ok (n, s)
  | v => .error (.pathEntry v)

def parentTable : Value → Except Rule (List (Int × String))
  | .list vs => vs.mapM parentEntry
  | _ => .error .pathsList

def Checked.parents (v : Value) : Checked (List (Int × String)) := .ofRule (parentTable v)

def tupleParent : Value → Except Rule (Option Int)
  | .null => .ok none
  | .int n => .ok (some n)
  | v => .error (.itemParent v)

def kindRule (x : Except Kind.Unknown Kind) : Except Rule Kind := x.mapError .kind

def tupleEntry (v : Value) : Except Rule Entry :=
  match v with
  | .list (kind :: name :: path :: description :: parent :: _) =>
    match kind with
    | .int n =>
      match name, path, description with
      | .text name, .text path, .text description => do
        let parent ← tupleParent parent
        let kind ← kindRule (Kind.ofNumber n)
        .ok ⟨kind, name, path, description, parent⟩
      | _, _, _ => .error (.itemStrings v)
    | _ => .error (.itemKind kind)
  | _ => .error (.itemTuple v)

def tupleEntries : Value → Except Rule (List Entry)
  | .list vs => vs.mapM tupleEntry
  | _ => .error .itemsList

/-- A path in a column: that of the item at this place, or that of the item with a number. -/
inductive PathCell where
  | here (path : String)
  | at (index : Int) (path : String)

def pathCell : Value → Checked PathCell
  | .text s => .ok (.here s)
  | .list [i, s] =>
    match i, s with
    | .int i, .text s => .ok (.at i s)
    | _, _ => .error (.expected .string ::
        ((match i with
          | .int _ => []
          | _ => [.expected .integer]) ++
        match s with
        | .text _ => []
        | _ => [.expected .string]))
  | .list [.int _] => .error [.expected .string, .missing]
  | .list [_] => .error [.expected .string, .expected .integer, .missing]
  | .list [] => .error [.expected .string, .missing, .missing]
  | .list vs => .error [.expected .string, .tupleSize vs.length]
  | _ => .error [.expected .string, .expected .tuple]

structure Columns where
  parentTable : List (Int × String)
  kinds : List Kind
  names : List String
  paths : List PathCell
  descriptions : List String
  parents : List Int

/-- The paths with the places that they belong to, counted from `start`. -/
def placed (start : Nat) : List PathCell → List (Int × String)
  | [] => []
  | .here s :: r => (start, s) :: placed (start + 1) r
  | .at i s :: r => (i, s) :: placed (start + 1) r

namespace Columns

def mismatches (c : Columns) : List (String × Nat) :=
  [("t", c.kinds.length), ("d", c.descriptions.length), ("i", c.parents.length)].filter fun m =>
    m.2 ≠ c.names.length

def inRange (c : Columns) (i : Int) : Bool :=
  decide (0 ≤ i) && decide (i < max c.names.length 1)

def broken? (c : Columns) : Option Rule :=
  if !c.mismatches.isEmpty then some (.lengths c.names.length c.mismatches)
  else if c.parents.any fun p => decide (p < 0) then some .negativeParent
  else ((placed 0 c.paths).find? fun p => !c.inRange p.1).map fun p => .pathIndex p.1

/-- The path of every item; the last one that is given counts. -/
def pathList (c : Columns) : List String :=
  ((placed 0 c.paths).foldl (fun a p => a.setIfInBounds p.1.toNat p.2)
    (Array.replicate c.names.length "")).toList

def parentOf (n : Int) : Option Int := if n = 0 then none else some (n - 1)

def entriesFrom : List Kind → List String → List String → List String → List Int → List Entry
  | k :: ks, n :: ns, p :: ps, d :: ds, i :: is =>
    ⟨k, n, p, d, parentOf i⟩ :: entriesFrom ks ns ps ds is
  | _, _, _, _, _ => []

def package (c : Columns) : Except Rule Package :=
  match c.broken? with
  | some r => .error r
  | none => .ok ⟨entriesFrom c.kinds c.names c.pathList c.descriptions c.parents, c.parentTable⟩

end Columns

def numberedKinds (v : Value) : Checked (List Kind) :=
  (Checked.listOf .integer v).ruled fun ns => ns.mapM fun n => kindRule (Kind.ofNumber n)

def letteredKinds (v : Value) : Checked (List Kind) :=
  (Checked.string v).ruled fun s => s.toList.mapM fun c => kindRule (Kind.ofLetter c)

def columns (kinds : Value → Checked (List Kind)) (ms : List (String × Value)) : Checked Columns :=
  Columns.mk <$> .required "p" .parents ms <*> .required "t" kinds ms <*>
    .required "n" (.listOf .string) ms <*> .required "q" (.listOf pathCell) ms <*>
    .required "d" (.listOf .string) ms <*> .required "i" (.listOf .integer) ms

def Format.decode (f : Format) : Value → Checked Package
  | .object ms =>
    match f with
    | tuples => (fun ps es => ⟨es, ps⟩) <$> .required "p" .parents ms <*>
        .required "i" (fun v => .ofRule (tupleEntries v)) ms
    | columns => (Index.columns numberedKinds ms).ruled Columns.package
    | packed => (Index.columns letteredKinds ms).ruled Columns.package
  | _ => .fault (.notObject f)

def decodeWith (v : Value) : List Format → List Rejection × Option (Format × Package)
  | [] => ([], none)
  | f :: r =>
    match f.decode v with
    | .ok p => ([], some (f, p))
    | .error faults =>
      let (rs, found) := decodeWith v r
      (⟨f, faults⟩ :: rs, found)

def decodePackage (source : Option Path) (name : String) (v : Value) : Traced Error Package := do
  let (rejections, found) := decodeWith v Format.all
  .notes (rejections.map (Rejection.event name))
  match found with
  | some (f, p) =>
    .note (.detailed .debug .schema "search index adapter matched"
      [("krate", Text.Quoted.quote name), ("adapter", Text.Quoted.quote f.name)])
    return p
  | none => .fail (.malformed source (.package name rejections))

end CrateDocs.Index
