import CrateDocs.Decimal.Shortest
import CrateDocs.Record
import CrateDocs.Text.Quoted

/-!
JSON values. Whole numbers and numbers with a fraction or an exponent are told apart, and the
members of an object keep their order.
-/

namespace CrateDocs.Json

inductive Value where
  | null
  | bool (b : Bool)
  | int (n : Int)
  | float (x : Float)
  | text (s : String)
  | list (items : List Value)
  | object (members : List (String × Value))

def commaJoin (parts : List (List Char)) : List Char := [',', ' '].intercalate parts

mutual

def Value.shownChars : Value → List Char
  | .null => "None".toList
  | .bool true => "True".toList
  | .bool false => "False".toList
  | .int n => (toString n).toList
  | .float x => (Decimal.shown x).toList
  | .text s => Text.Quoted.encode s.toList
  | .list items => '[' :: commaJoin (shownItems items) ++ [']']
  | .object members => '\x7b' :: commaJoin (shownMembers members) ++ ['\x7d']

def shownItems : List Value → List (List Char)
  | [] => []
  | v :: r => v.shownChars :: shownItems r

def shownMembers : List (String × Value) → List (List Char)
  | [] => []
  | (k, v) :: r => (Text.Quoted.encode k.toList ++ ':' :: ' ' :: v.shownChars) :: shownMembers r

end

def Value.shown (v : Value) : String := String.ofList v.shownChars

end CrateDocs.Json
