import CrateDocs.Doc.Basic
import CrateDocs.Text.Case

/-!
The blocks of a document, as a manual page has them: a title, and sections under headings. Texts are
indented below what they belong to.

The title line: three texts spread over a line, one at its start, one in its middle and one at its
end.
-/

namespace CrateDocs.View

def spaces (n : Int) : String := "".pushn ' ' n.toNat

/-- The title of a width. Texts that do not fit stand two spaces apart. -/
def formatTitle (width : Int) (left middle right : String) : String :=
  let inner := width - left.length - right.length
  if inner < middle.length + 2 then left ++ "  " ++ middle ++ "  " ++ right
  else
    let before := max ((width - middle.length) / 2 - left.length) 1
    let after := max (inner - before - middle.length) 1
    left ++ spaces before ++ middle ++ spaces after ++ right

inductive Block where
  | title (text : String)
  | heading (indent : Nat) (text : String)
  | prose (indent : Nat) (text : String)
  | code (indent : Nat) (text : String)
  | blank
  deriving DecidableEq

def programName : String := "rustdoc-man"

def step : Nat := 4

def titleBlocks (width : Int) (d : Doc) : List Block :=
  [.title (formatTitle width d.name.text programName d.kind.displayName), .blank]

def firstLine (s : String) : String := String.ofList (s.toList.takeWhile (· ≠ '\n'))

def memberBlocks (indent : Nat) (d : Doc) : List Block :=
  .prose indent d.name.last :: match d.description with
    | some p => [.prose (indent + step) (firstLine p.plain)]
    | none => []

/-- A group with its title, if it has one; the members of a titled group are one level deeper. -/
def groupBlocks (g : MemberGroup Doc) : List Block :=
  match g.title.filter fun t => !t.isEmpty with
  | some t => .heading step t :: g.members.flatMap (memberBlocks (step + step))
  | none => g.members.flatMap (memberBlocks step)

def kindBlocks (k : Kind) (gs : List (MemberGroup Doc)) : List Block :=
  .blank :: .heading 0 k.groupName.toUpper :: gs.flatMap groupBlocks

def docBlocks (width : Int) (d : Doc) : List Block :=
  titleBlocks width d ++
  (match d.definition with
    | some c => [.heading 0 "SYNOPSIS", .code step c, .blank]
    | none => []) ++
  (match d.description with
    | some p => [.heading 0 "DESCRIPTION", .prose step p.plain]
    | none => []) ++
  d.groups.flatMap fun e => kindBlocks e.1 e.2

def exampleBlocks (number : Nat) (e : Example) : List Block :=
  (if 1 < number then [.blank] else []) ++
  .heading 0 ("EXAMPLE " ++ toString number) ::
  (match e.description with
    | some p => [.prose step p.plain, .blank]
    | none => []) ++
  [.code step e.code]

def numberedFrom (number : Nat) : List Example → List Block
  | [] => []
  | e :: r => exampleBlocks number e ++ numberedFrom (number + 1) r

def examplesBlocks (width : Int) (d : Doc) (es : List Example) : List Block :=
  titleBlocks width d ++ numberedFrom 1 es

def dropFinalBlanks (bs : List Block) : List Block :=
  (bs.reverse.dropWhile (· == .blank)).reverse

end CrateDocs.View
