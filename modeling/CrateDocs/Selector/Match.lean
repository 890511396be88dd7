import CrateDocs.Selector.Direction
import CrateDocs.Selector.Language
import CrateDocs.Selector.Range

/-!
Which places a selector matches. The conditions of a compound hold at the place itself; another
compound has to match some place that stands to it as the combinator says.
-/

namespace CrateDocs

open Markup

namespace Selector

/-- A search keeps in mind which documents turned out to have no language. -/
abbrev Search := StateT (List (List Nat)) (Except Fault)

def isNamed (onPages : Bool) (space : Option String) (name : String) (n : Node) : Bool :=
  let inSpace := match space with
    | none => true
    | some s => s == "*" || (onPages && s == "html")
  inSpace && (name == "*" || asciiLower name == nameOf n)

/-- Elements with a hyphen in their name are defined elsewhere, if at all. -/
def isDefined (n : Node) : Bool :=
  let name := (nameOf n).toList
  !name.contains '-' || name.contains ':'

/-- A text is among the contents of an element. The first list tells what is searched: the whole
text, or each text of the element itself. A later list of the other kind takes what is there: single
characters of the whole text, or texts that are the same. -/
def containsTexts (n : Node) : List (Bool × List String) → Bool
  | [] => true
  | (own, ts) :: r =>
    if own then
      let parts := ownTexts true n
      ((own, ts) :: r).all fun l =>
        if l.1 then l.2.any fun t => parts.any fun p => Text.occursIn t.toList p.toList
        else l.2.any fun t => parts.contains t
    else
      let whole := (String.join (texts true n)).toList
      ((own, ts) :: r).all fun l =>
        if l.1 then l.2.any fun t => whole.any fun c => Text.occursIn t.toList [c]
        else l.2.any fun t => Text.occursIn t.toList whole

/-- The places that the left side of a combinator may match, seen from its right side. -/
def origins (closed : Bool) (k : Combinator) (p : Place) : List Place :=
  match k with
  | .descendant => ancestors closed p
  | .child => (ancestors closed p).take 1
  | .next => p.previous?.toList
  | .sibling => p.preceding

def targets (closed : Bool) (k : Combinator) (p : Place) : List Place :=
  match k with
  | .descendant => descendants closed p
  | .child => children closed p
  | .next => p.next?.toList
  | .sibling => p.following

def Count.siblings (c : Count) (p : Place) : List Place :=
  let side := if c.fromEnd then p.following else p.preceding
  (side.filter fun q => !c.ofType || nameOf q.node == nameOf p.node).reverse

def form? (p : Place) : Option Place := (ancestors true p).find? fun q => nameOf q.node == "form"

/-- Whether an element is the first one of its form that submits it. Another form in the form ends
the search. -/
def isFirstSubmit (p : Place) : Bool :=
  match form? p with
  | none => false
  | some f =>
    let isButton (q : Place) : Bool := ["input", "button"].contains (nameOf q.node) &&
      (attribute? "type" q.node).any fun t => asciiLower t == "submit"
    match (descendants true f).find? fun q => nameOf q.node == "form" || isButton q with
    | some q => q.path == p.path
    | none => false

/-- What a radio button belongs to: its form, or else its whole document. -/
def group? (p : Place) : Option Place := (form? p).or (ancestors true p).getLast?

def isUndecided (p : Place) : Except Fault Bool :=
  match group? p with
  | none => .error .noGroup
  | some g =>
    let name := attribute? "name" p.node
    let isChosen (q : Place) : Bool := nameOf q.node == "input" && q.path != p.path &&
      (attribute? "type" q.node).any (fun t => asciiLower t == "radio") &&
      attribute? "name" q.node == name && (attribute? "checked" q.node).isSome &&
      (group? q).any fun h => h.path == g.path
    .ok (!(descendants true g).any isChosen)

/-- Whether one of the ranges covers the language of an element. A document without a language is
found to have an empty one when it is asked again. -/
def isInLanguage (ranges : List String) (p : Place) : Search Bool := do
  let covered (l : String) : Bool := ranges.any fun r => Language.matchesRange r l
  match Language.declared? p with
  | some l => return covered l
  | none =>
    let o := Language.origin p
    if (← get).contains o.path then return covered ""
    else
      match Language.head? o with
      | none => return false
      | some h =>
        match h.node.childElements.findSome? Language.ofMeta? with
        | some l => return covered l
        | none =>
          modify (o.path :: ·)
          return false

end Selector

open Selector

mutual

/-- Whether a condition holds at a place. Of the siblings, a step counts those that the list of the
count matches, and a single position counts all. -/
def Selector.Simple.holds (onPages : Bool) (p : Place) : Selector.Simple → Search Bool
  | .named space name => return isNamed onPages space name p.node
  | .defined => return isDefined p.node
  | .root => return isRoot p
  | .scope => return isOutermost p && p.ancestors.length == 1
  | .blank => return ["", "\n"].contains (String.join (texts false p.node))
  | .count c none => c.amount.holds ((c.siblings p).length + 1)
  | .count c (some among) => do
    if ← among.holds onPages p then
      match c.amount with
      | .only _ => c.amount.holds ((c.siblings p).length + 1)
      | .every .. =>
        let ones ← (c.siblings p).filterM fun q => among.holds onPages q
        c.amount.holds (ones.length + 1)
    else return false
  | .empty => return isEmpty p.node
  | .id v => return (attribute? "id" p.node).getD "" == v
  | .cls v => return p.node.hasClass v
  | .attribute name test ignoreCase =>
    return (attribute? name p.node).any fun v => test.holds ignoreCase v
  | .range within => Range.holds within p.node
  | .lang ranges => isInLanguage ranges p
  | .choices lists => Selector.allHold onPages p lists
  | .behind k other => (origins onPages k p).anyM fun q => other.isMatch onPages q
  | .ahead k other => (targets onPages k p).anyM fun q => other.isMatch onPages q
  | .firstSubmit => return isFirstSubmit p
  | .undecided => isUndecided p
  | .direction d => return Direction.of? p == some d
  | .contains lists => return containsTexts p.node lists

def Selector.conditionsHold (onPages : Bool) (p : Place) : List Selector.Simple → Search Bool
  | [] => return true
  | s :: r => do
    if ← s.holds onPages p then Selector.conditionsHold onPages p r else return false

def Selector.isMatch (onPages : Bool) (p : Place) : Selector → Search Bool
  | .never => return false
  | .all conditions => Selector.conditionsHold onPages p conditions

def Selector.someMatch (onPages : Bool) (p : Place) : List Selector → Search Bool
  | [] => return false
  | s :: r => do
    if ← s.isMatch onPages p then return true else Selector.someMatch onPages p r

def Selector.Choice.holds (onPages : Bool) (p : Place) : Selector.Choice → Search Bool
  | .mk negated pages options =>
    return (← Selector.someMatch (onPages || pages) p options) != negated

def Selector.allHold (onPages : Bool) (p : Place) : List Selector.Choice → Search Bool
  | [] => return true
  | c :: r => do
    let first ← c.holds onPages p
    let others ← Selector.allHold onPages p r
    return first && others

end

def Selector.Choice.firstOf? (c : Selector.Choice) : List Place → Search (Option Place)
  | [] => return none
  | p :: r => do
    if ← c.holds false p then return some p else c.firstOf? r

def Selector.Choice.first? (c : Selector.Choice) (d : Document) : Except Fault (Option Place) :=
  (c.firstOf? d.places).run' []

end CrateDocs
