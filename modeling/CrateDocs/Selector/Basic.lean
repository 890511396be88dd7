import CrateDocs.Decimal.Binary
import CrateDocs.Markup.Place
import CrateDocs.Selector.Fault
import CrateDocs.Text.Case
import CrateDocs.Text.Direction
import CrateDocs.Text.Split

/-!
Selectors: conditions on an element and on the elements around it. A selector is a compound of
conditions that all have to hold, in the order in which they are tried; one of them may ask for
another element, in some relation to the first, which a selector of its own describes.
-/

namespace CrateDocs

/-- How the elements of two compounds stand to each other, the one that is written first and the one
after it. -/
inductive Combinator where
  | descendant
  | child
  | next
  | sibling
  deriving DecidableEq

namespace Selector

inductive Test where
  | present
  | equals (value : String)
  | startsWith (value : String)
  | endsWith (value : String)
  | contains (value : String)
  | hasWord (value : String)
  | dashed (value : String)
  deriving DecidableEq

inductive Amount where
  | only (position : Int)
  | every (step offset : Int)
  deriving DecidableEq

structure Count where
  amount : Amount
  ofType : Bool
  fromEnd : Bool
  deriving DecidableEq

end Selector

mutual

inductive Selector.Simple where
  | named (space : Option String) (name : String)
  | defined
  | root
  | scope
  | blank
  | count (c : Selector.Count) (among : Option Selector.Choice)
  | empty
  | id (value : String)
  | cls (value : String)
  | attribute (name : String) (test : Selector.Test) (ignoreCase : Bool)
  | range (within : Bool)
  | lang (ranges : List String)
  | choices (lists : List Selector.Choice)
  | behind (k : Combinator) (other : Selector)
  | ahead (k : Combinator) (other : Selector)
  | firstSubmit
  | undecided
  | direction (d : Text.Direction)
  | contains (lists : List (Bool × List String))

inductive Selector where
  | never
  | all (conditions : List Selector.Simple)

/-- A list of selectors, of which one has to match, or none if the list is negated. A list that asks
for something that only pages have takes frames for documents of their own. -/
inductive Selector.Choice where
  | mk (negated onPages : Bool) (options : List Selector)

end

namespace Selector

open Markup

def asciiLower (s : String) : String := String.ofList (s.toList.map Char.toLower)

/-- A value without its final line feed, which a comparison up to the end of a value overlooks. -/
def dropFinalNewline (s : List Char) : List Char :=
  match s.reverse with
  | '\n' :: r => r.reverse
  | _ => s

def isWordChar (c : Char) : Bool := !Text.isMarkupBlank c

def markupWords (s : List Char) : List (List Char) :=
  (s.splitBy fun a b => isWordChar a == isWordChar b).filter fun w => w.all isWordChar

def equalsValue (part value : List Char) : Bool := value == part || value == part ++ ['\n']

/-- Whether a condition on a value holds. No value starts with an empty text, ends in one, contains
one or has one among its words. -/
def Test.holds (ignoreCase : Bool) (t : Test) (actual : String) : Bool :=
  let read (s : String) : List Char := (if ignoreCase then Text.fold s else s).toList
  let a := read actual
  match t with
  | .present => true
  | .equals s => equalsValue (read s) a
  | .startsWith s => !s.isEmpty && (read s).isPrefixOf a
  | .endsWith s =>
    !s.isEmpty && ((read s).isSuffixOf a || (read s).isSuffixOf (dropFinalNewline a))
  | .contains s => !s.isEmpty && Text.occursIn (read s) a
  | .hasWord s =>
    !s.isEmpty && s.toList.all isWordChar && (markupWords a).contains (read s)
  | .dashed s => equalsValue (read s) a || (read s ++ ['-']).isPrefixOf a

def attribute? (name : String) (n : Node) : Option String :=
  (n.attributes.find? fun a => asciiLower a.name == asciiLower name).map Attribute.value

def nameOf (n : Node) : String := asciiLower (n.name?.getD "")

/-- Whether a position, counted from one, is among those that are counted. A position far off a step
that is too large for any float counts as being on it. -/
def Amount.holds (position : Nat) : Amount → Except Fault Bool
  | .only p => .ok (p == (position : Int))
  | .every step offset =>
    let d := (position : Int) - offset
    if step = 0 then .ok (d == 0)
    else
      match Decimal.Quotient.of d.natAbs step.natAbs with
      | .zero => .ok true
      | .whole => .ok (decide (0 ≤ d) == decide (0 ≤ step))
      | .broken => .ok false
      | .infinite => .error .countTooLarge

end Selector

end CrateDocs
