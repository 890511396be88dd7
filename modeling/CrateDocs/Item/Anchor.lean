import CrateDocs.Text.Split
import CrateDocs.Text.Digit
import CrateDocs.Item.Kind

/-!
Anchors: the ids of the elements that document the members of an item. An anchor is a kind's token,
a dot and a name, followed by a hyphen and a counter if the page has several of that name.
-/

namespace CrateDocs.Anchor

/-- Removes a hyphen and the digits after it from the end, given backwards. -/
def dropCounter? (s : List Char) : Option (List Char) :=
  match s.span Text.isDecimal with
  | (_ :: _, '-' :: r) => some r
  | _ => none

def stripCounter (s : List Char) : List Char :=
  match s.reverse with
  | '\n' :: r =>
    match dropCounter? r with
    | some t => t.reverse ++ ['\n']
    | none => s
  | r =>
    match dropCounter? r with
    | some t => t.reverse
    | none => s

def token (id : List Char) : List Char := stripCounter (Text.cutChar '.' id).1

def name? (id : List Char) : Option (List Char) := (Text.cutChar '.' id).2.map stripCounter

def text (k : Kind) (name : String) : String := k.token ++ "." ++ name

/-- Reads an anchor that is exactly a token, a dot and a name, both of them not empty. Other texts
are no anchors of members. -/
def read (s : List Char) : Except Kind.Unknown (Option (Kind × String)) :=
  match Text.splitChar '.' s with
  | [t, n] =>
    if t.isEmpty || n.isEmpty then .ok none
    else do
      let k ← Kind.ofToken (String.ofList t)
      .ok (some (k, String.ofList (stripCounter n)))
  | _ => .ok none

end CrateDocs.Anchor
