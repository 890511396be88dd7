import CrateDocs.Decimal.Numeral
import CrateDocs.Decimal.Shortest
import CrateDocs.Text.Quoted
import CrateDocs.Toml.Value

namespace CrateDocs.Toml.Value

def shownInt (n : Int) : Option String :=
  let s := toString n
  if Decimal.numeralLimit < (toString n.natAbs).length then none else some s

mutual

/-- A value as messages show it, unless there is a number in it that is not shown. -/
def shown? : Value → Option String
  | .text s => some (Text.Quoted.quote s)
  | .int n => shownInt n
  | .float x => some (Decimal.shown x)
  | .bool b => some (if b then "True" else "False")
  | .moment m => some m.shown
  | .list vs => do return "[" ++ ", ".intercalate (← itemsShown? vs) ++ "]"
  | .table es => do return "\x7b" ++ ", ".intercalate (← entriesShown? es) ++ "\x7d"

def itemsShown? : List Value → Option (List String)
  | [] => some []
  | v :: r => do return (← shown? v) :: (← itemsShown? r)

def entriesShown? : List (String × Value) → Option (List String)
  | [] => some []
  | (k, v) :: r => do
    return (Text.Quoted.quote k ++ ": " ++ (← shown? v)) :: (← entriesShown? r)

end

def typeName : Value → String
  | .text _ => "str"
  | .int _ => "int"
  | .float _ => "float"
  | .bool _ => "bool"
  | .moment m => m.typeName
  | .list _ => "list"
  | .table _ => "dict"

def shown (v : Value) : String :=
  v.shown?.getD ("<unprintable " ++ v.typeName ++ " object>")

end CrateDocs.Toml.Value
