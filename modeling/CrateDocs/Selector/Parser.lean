import CrateDocs.Selector.Forms
import CrateDocs.Selector.Token

/-!
Reading selectors from their tokens. Lists of selectors may stand inside each other; the lists that
are open at a token are kept on a stack, each one up to the compound that is being read.
-/

namespace CrateDocs.Selector

/-- The place of a condition in the order in which the conditions of a compound are tried. -/
def Simple.rank : Simple → Nat
  | .named .. => 0
  | .defined => 1
  | .root => 2
  | .scope => 3
  | .blank => 4
  | .count .. => 5
  | .empty => 6
  | .id _ => 7
  | .cls _ => 8
  | .attribute .. => 9
  | .range _ => 10
  | .lang _ => 11
  | .choices _ => 12
  | .behind .. => 13
  | .ahead .. => 13
  | .firstSubmit => 14
  | .undecided => 15
  | .direction _ => 16
  | .contains _ => 17

/-- Adds a condition to those of a compound, after all that are tried before it. Lists of choices
are tried as one, and so are lists of texts. -/
def addSimple (s : Simple) : List Simple → List Simple
  | [] => [s]
  | t :: r =>
    match t, s with
    | .choices as, .choices bs => .choices (as ++ bs) :: r
    | .contains as, .contains bs => .contains (as ++ bs) :: r
    | _, _ => if s.rank < t.rank then s :: t :: r else t :: addSimple s r

structure Draft where
  conditions : List Simple
  hopeless : Bool

namespace Draft

def empty : Draft := ⟨[], false⟩

def isStarted (d : Draft) : Bool := d.hopeless || !d.conditions.isEmpty

def add (s : Simple) (d : Draft) : Draft := { d with conditions := addSimple s d.conditions }

def selector (relation : Option Simple) (d : Draft) : Selector :=
  if d.hopeless then .never
  else .all (relation.elim d.conditions fun s => addSimple s d.conditions)

end Draft

/-- How a list is read: as it stands, negated, with empty places that match nothing, or relative to
the element that has the list as a condition. -/
inductive Mode where
  | plain
  | negated
  | forgiving
  | relative
  deriving DecidableEq

inductive Use where
  | choice
  | nothing
  | counting (c : Count)

/-- A list that is being read. What the compound is related to is the compound before it, or in a
relative list the ones after it, so that those of a relative list are kept, the last one first. -/
structure Frame where
  mode : Mode
  use : Use
  onPages : Bool
  done : List Selector
  draft : Draft
  left : Option Simple
  lead : Combinator
  chain : List (Combinator × Draft)
  links : Nat

namespace Frame

def start (mode : Mode) (use : Use) : Frame :=
  ⟨mode, use, false, [], .empty, none, .descendant, [], 0⟩

def linkLimit : Nat := 490

def add (s : Simple) (f : Frame) : Frame :=
  let special := match s with
    | .defined => true
    | .direction _ => true
    | _ => false
  { f with draft := f.draft.add s, onPages := f.onPages || special }

def giveUp (f : Frame) : Frame := { f with draft := { f.draft with hopeless := true } }

/-- The relations of a relative list, from the last compound back to the first one. -/
def relation? (chain : List (Combinator × Draft)) : Option Simple :=
  chain.foldl (fun inner (k, d) => some (.ahead k (d.selector inner))) none

def selector (f : Frame) : Selector :=
  if f.mode = .relative then .all (relation? ((f.lead, f.draft) :: f.chain)).toList
  else f.draft.selector f.left

def push (s : Selector) (f : Frame) : Frame :=
  { f with
    done := s :: f.done, draft := .empty, left := none, lead := .descendant, chain := [],
    links := 0 }

def comma (f : Frame) : Except Fault Frame :=
  if f.draft.isStarted then .ok (f.push f.selector)
  else if f.mode = .forgiving then .ok (f.push .never)
  else .error .malformed

/-- Goes on with the next compound. A relative list may have a sign before its first compound, and a
sign takes the place of a blank before it. -/
def combine (k : Combinator) (f : Frame) : Except Fault Frame :=
  if f.draft.isStarted then
    if linkLimit ≤ f.links then .error .tooDeep
    else if f.mode = .relative then
      .ok { f with
        chain := (f.lead, f.draft) :: f.chain, lead := k, draft := .empty, links := f.links + 1 }
    else
      .ok { f with
        left := some (.behind k f.selector), draft := .empty, links := f.links + 1 }
  else if f.mode = .relative ∧ f.lead = .descendant then .ok { f with lead := k }
  else .error .malformed

/-- Ends the list. A forgiving one may end with an empty place, unless a compound before that place
belongs to it and there are other selectors. -/
def finish (f : Frame) : Except Fault Choice :=
  let choice (g : Frame) : Choice := .mk (g.mode = .negated) g.onPages g.done.reverse
  if f.draft.isStarted then .ok (choice (f.push f.selector))
  else if f.mode = .forgiving ∧ (f.done.isEmpty ∨ f.left.isNone) then .ok (choice (f.push .never))
  else .error .malformed

def accept (use : Use) (c : Choice) (f : Frame) : Frame :=
  match use with
  | .choice => f.add (.choices [c])
  | .nothing => f.giveUp
  | .counting n => f.add (.count n (some c))

end Frame

def position (ofType fromEnd : Bool) : Simple := .count ⟨.only 1, ofType, fromEnd⟩ none

def conditions? : String → Option (List Simple)
  | "root" => some [.root]
  | "defined" => some [.defined]
  | "scope" => some [.scope]
  | "empty" => some [.empty]
  | "link" | "any-link" => some [.choices [Forms.link]]
  | "checked" => some [.choices [Forms.checked]]
  | "default" => some [.choices [Forms.default]]
  | "indeterminate" => some [.choices [Forms.indeterminate]]
  | "disabled" => some [.choices [Forms.disabled]]
  | "enabled" => some [.choices [Forms.enabled]]
  | "required" => some [.choices [Forms.required]]
  | "optional" => some [.choices [Forms.optional]]
  | "read-only" => some [.choices [Forms.readOnly]]
  | "read-write" => some [.choices [Forms.writable]]
  | "in-range" => some [.choices [Forms.range true]]
  | "out-of-range" => some [.choices [Forms.range false]]
  | "placeholder-shown" => some [.choices [Forms.placeholderShown]]
  | "open" => some [.choices [Forms.isOpen]]
  | "muted" => some [.choices [Forms.muted]]
  | "first-child" => some [position false false]
  | "last-child" => some [position false true]
  | "first-of-type" => some [position true false]
  | "last-of-type" => some [position true true]
  | "only-child" => some [position false false, position false true]
  | "only-of-type" => some [position true false, position true true]
  | _ => none

/-- Pseudo-classes for what someone does with a page, which never hold. -/
def hopelessNames : List String :=
  ["active", "autofill", "buffering", "current", "focus", "focus-visible", "focus-within",
    "fullscreen", "future", "host", "hover", "local-link", "modal", "past", "paused",
    "picture-in-picture", "playing", "popover-open", "seeking", "stalled", "target",
    "target-within", "user-invalid", "user-valid", "visited", "volume-locked"]

def opened? : String → Option Frame
  | "is" | "where" => some (.start .forgiving .choice)
  | "not" => some (.start .negated .choice)
  | "has" => some (.start .relative .choice)
  | "matches" | "contains" | "-soup-contains" | "-soup-contains-own" =>
    some (.start .plain .choice)
  | "current" | "host" | "host-context" => some (.start .plain .nothing)
  | _ => none

structure Reading where
  top : Frame
  outer : List Frame

namespace Reading

def nestingLimit : Nat := 328

def start : Reading := ⟨.start .plain .nothing, []⟩

def openList (f : Frame) (x : Reading) : Except Fault Reading :=
  if nestingLimit ≤ x.outer.length then .error .tooDeep else .ok ⟨f, x.top :: x.outer⟩

def step (x : Reading) : Token → Except Fault Reading
  | .simple s => .ok { x with top := x.top.add s }
  | .named s =>
    if x.top.draft.isStarted then .error .malformed
    else do return { x with top := x.top.add (← s) }
  | .pseudo name opens =>
    if opens then
      match opened? name with
      | some f => x.openList f
      | none => .error .malformed
    else
      match conditions? name with
      | some ss => .ok { x with top := ss.foldl (fun f s => f.add s) x.top }
      | none =>
        if hopelessNames.contains name then .ok { x with top := x.top.giveUp }
        else .error .malformed
  | .countOf c => x.openList (.start .plain (.counting c))
  | .combinator k => do return { x with top := ← x.top.combine k }
  | .comma => do return { x with top := ← x.top.comma }
  | .close =>
    match x.outer with
    | [] => .error .malformed
    | f :: r => do return ⟨f.accept x.top.use (← x.top.finish), r⟩

def stepOrFail (x : Reading) : Except Fault Token → Except Fault Reading
  | .ok t => x.step t
  | .error f => .error f

def finish (x : Reading) : Except Fault Choice :=
  if x.outer.isEmpty then x.top.finish else .error .malformed

end Reading

/-- Reads a list of selectors. A null character counts as the replacement character. -/
def parse (text : String) : Except Fault Choice := do
  let s := text.toList.map fun c => if c = '\x00' then '\ufffd' else c
  (← (Token.ofText s).foldlM Reading.stepOrFail Reading.start).finish

end CrateDocs.Selector
