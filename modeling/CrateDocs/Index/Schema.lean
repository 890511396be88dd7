import CrateDocs.Checked
import CrateDocs.Index.Package
import CrateDocs.Json.Value

/-!
The schema of a package in a search index. A value is checked member by member, and all faults that
are found are kept, in order; a rule of the schema is broken once.
-/

namespace CrateDocs.Index

open Json (Value)

inductive Format where
  | tuples
  | columns
  | packed
  deriving DecidableEq

namespace Format

def name : Format → String
  | tuples => "1.44"
  | columns => "1.52"
  | packed => "1.69"

def all : List Format := [packed, columns, tuples]

end Format

inductive Expected where
  | string
  | integer
  | list
  | tuple

def Expected.name : Expected → String
  | string => "string"
  | integer => "integer"
  | list => "list"
  | tuple => "tuple"

inductive Rule where
  | pathsList
  | pathEntry (v : Value)
  | itemsList
  | itemTuple (v : Value)
  | itemKind (v : Value)
  | itemStrings (v : Value)
  | itemParent (v : Value)
  | kind (u : Kind.Unknown)
  | lengths (names : Nat) (others : List (String × Nat))
  | negativeParent
  | pathIndex (i : Int)

def Rule.message : Rule → String
  | pathsList => "paths must be a list"
  | pathEntry v => "invalid path entry: " ++ v.shown
  | itemsList => "items must be a list"
  | itemTuple v => "invalid item tuple: " ++ v.shown
  | itemKind v => "invalid item type: " ++ v.shown
  | itemStrings v => "invalid item strings: " ++ v.shown
  | itemParent v => "invalid parent: " ++ v.shown
  | kind u => u.message
  | lengths n others => "parallel arrays differ in length: n=" ++ toString n ++ ", " ++
      (Value.object (others.map fun o => (o.1, .int o.2))).shown
  | negativeParent => "negative parent index"
  | pathIndex i => "item path index " ++ toString i ++ " out of range"

inductive Fault where
  | notObject (format : Format)
  | missing
  | expected (what : Expected)
  | tupleSize (n : Nat)
  | broken (rule : Rule)

def Fault.message : Fault → String
  | notObject f => "Input should be a valid dictionary or instance of CrateDataV" ++
      String.ofList (f.name.toList.map fun c => if c = '.' then '_' else c)
  | missing => "Field required"
  | expected x => "Input should be a valid " ++ x.name
  | tupleSize n => "Tuple should have at most 2 items after validation, not " ++ toString n
  | broken r => "Value error, " ++ r.message

abbrev Checked (α : Type) : Type := CrateDocs.Checked Fault α

namespace Checked

def ofRule (x : Except Rule α) : Checked α := .ofExcept (x.mapError .broken)

def ruled (x : Checked α) (f : α → Except Rule β) : Checked β :=
  x.andThen fun a => (f a).mapError .broken

def string : Value → Checked String
  | .text s => .ok s
  | _ => .fault (.expected .string)

def integer : Value → Checked Int
  | .int n => .ok n
  | _ => .fault (.expected .integer)

def listOf (check : Value → Checked α) : Value → Checked (List α)
  | .list vs => .each check vs
  | _ => .fault (.expected .list)

def required (key : String) (check : Value → Checked α) (members : List (String × Value)) :
    Checked α :=
  match Record.get? key members with
  | some v => check v
  | none => .fault .missing

end Checked

end CrateDocs.Index
