import CrateDocs.Item.Name
import CrateDocs.Item.Kind
import CrateDocs.Item.Anchor
import CrateDocs.Link.Scheme

/-!
Links on the pages of a crate's documentation. A relative link is a walk over directories that ends
at a page and, after a number sign, at an anchor on it; following the walk by names instead of
directories gives the item that the link leads to.
-/

namespace CrateDocs

inductive Target where
  | item (kind : Option Kind) (name : Name)
  | external (url : String)
  deriving DecidableEq

namespace Link

inductive Cause where
  | aboveRoot
  | root
  | unknownKind (what : Kind.Unknown)
  deriving DecidableEq

inductive Error where
  | malformedUrl
  | unresolved (link : String) (cause : Cause)
  deriving DecidableEq

def Cause.message : Cause → String
  | .aboveRoot => "exceeded root level"
  | .root => "cannot handle link to root"
  | .unknownKind u => u.message

def Error.message : Error → String
  | .malformedUrl => "Invalid URL"
  | .unresolved link c =>
    "Could not resolve link " ++ Text.Quoted.quote link ++ ": " ++ c.message

structure Cursor where
  kind : Option Kind
  name : Option Name
  deriving DecidableEq

namespace Cursor

def child (c : Cursor) (kind : Option Kind) (segment : String) : Cursor :=
  ⟨kind, some (match c.name with
    | some n => n.child segment
    | none => ⟨segment⟩)⟩

def up (c : Cursor) : Except Cause Cursor :=
  match c.name with
  | some n => .ok ⟨none, n.parent?⟩
  | none => .error .aboveRoot

def anchor? (c : Cursor) (s : List Char) : Except Cause (Option Cursor) :=
  match Anchor.read s with
  | .ok (some (k, n)) => .ok (some (c.child (some k) n))
  | .ok none => .ok none
  | .error u => .error (.unknownKind u)

def htmlSuffix : List Char := ".html".toList

def step (c : Cursor) (part : List Char) : Except Cause Cursor :=
  if part = "..".toList then c.up
  else if part = "index.html".toList then .ok c
  else if htmlSuffix.isSuffixOf part then do
    let stem := part.take (part.length - htmlSuffix.length)
    let there ← c.anchor? stem
    .ok (there.getD (c.child none (String.ofList stem)))
  else .ok (c.child (some .module) (String.ofList part))

end Cursor

def steps (path : List Char) : List (List Char) :=
  (Text.splitChar '/' path).filter fun p => !(p.isEmpty || p == ['.'])

def start (name : Name) (kind : Kind) (path : List (List Char)) : Cursor :=
  if kind = .module ∨ path = [] then ⟨some kind, some name⟩ else ⟨none, name.parent?⟩

def follow (name : Name) (kind : Kind) (link : List Char) : Except Cause Target := do
  let (path, fragment) := Text.cutChar '#' link
  let there ← (steps path).foldlM Cursor.step (start name kind (steps path))
  let there ← match fragment with
    | some f => do .ok ((← there.anchor? f).getD there)
    | none => .ok there
  match there.name with
  | some n => .ok (.item there.kind n)
  | none => .error .root

def resolve (name : Name) (kind : Kind) (link : String) : Except Error Target :=
  match hasScheme? link.toList with
  | none => .error .malformedUrl
  | some true => .ok (.external link)
  | some false =>
    match follow name kind link.toList with
    | .ok t => .ok t
    | .error c => .error (.unresolved link c)

end Link

end CrateDocs
