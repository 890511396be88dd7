import CrateDocs.Checked
import CrateDocs.Path
import CrateDocs.Text.Utf8
import CrateDocs.Toml.Fault
import CrateDocs.Toml.Printer

/-!
Settings that a user keeps in a file, as defaults for the options of the command line.
-/

namespace CrateDocs

structure Settings where
  sources : List String
  viewer : Option String
  noDefaultSources : Bool
  noSearch : Bool
  noHighlighting : Bool
  theme : Option String
  width : Option Int
  deriving DecidableEq

namespace Settings

def standard : Settings := ⟨[], none, false, false, false, none, none⟩

def viewers : List String := ["plain", "rich"]

def leastWidth : Int := 20

def greatestWidth : Int := 1000

inductive Cause where
  | notString
  | notList
  | notBool
  | boolText
  | notInteger
  | integerText
  | integerTooLong
  | fraction
  | notFinite
  | tooSmall
  | tooLarge
  | viewer (name : String)
  | unknown
  deriving DecidableEq

namespace Cause

def code : Cause → String
  | notString => "string_type"
  | notList => "list_type"
  | notBool => "bool_type"
  | boolText => "bool_parsing"
  | notInteger => "int_type"
  | integerText => "int_parsing"
  | integerTooLong => "int_parsing_size"
  | fraction => "int_from_float"
  | notFinite => "finite_number"
  | tooSmall => "greater_than_equal"
  | tooLarge => "less_than_equal"
  | viewer _ => "value_error"
  | unknown => "extra_forbidden"

def message : Cause → String
  | notString => "Input should be a valid string"
  | notList => "Input should be a valid list"
  | notBool => "Input should be a valid boolean"
  | boolText => "Input should be a valid boolean, unable to interpret input"
  | notInteger => "Input should be a valid integer"
  | integerText => "Input should be a valid integer, unable to parse string as an integer"
  | integerTooLong => "Unable to parse input string as an integer, exceeded maximum size"
  | fraction => "Input should be a valid integer, got a number with a fractional part"
  | notFinite => "Input should be a finite number"
  | tooSmall => "Input should be greater than or equal to " ++ toString leastWidth
  | tooLarge => "Input should be less than or equal to " ++ toString greatestWidth
  | viewer n => "Value error, unknown viewer '" ++ n ++ "' (expected plain or rich)"
  | unknown => "Extra inputs are not permitted"

end Cause

structure Fault where
  name : String
  item : Option Nat
  cause : Cause
  value : Toml.Value

namespace Fault

/-- The place of a fault; a name with points stands in quotes. -/
def place (f : Fault) : String :=
  let name := if f.name.contains '.' then "`" ++ f.name ++ "`" else f.name
  match f.item with
  | some i => name ++ "." ++ toString i
  | none => name

def within (limit : Nat) : Nat → List Char → List Char
  | _, [] => []
  | n, c :: r => if n + c.utf8Size ≤ limit then c :: within limit (n + c.utf8Size) r else []

/-- At most fifty bytes of a text: of a longer one its start and its end. -/
def shorten (s : String) : String :=
  if s.utf8ByteSize ≤ 50 then s
  else String.ofList (within 25 0 s.toList) ++ "..." ++
    String.ofList (within 24 0 s.toList.reverse).reverse

/-- A fault in words. Under `help`, if that is given, the causes are explained by their codes. -/
def message (help : Option String) (f : Fault) : String :=
  f.place ++ "\n  " ++ f.cause.message ++ " [type=" ++ f.cause.code ++ ", input_value=" ++
    shorten f.value.shown ++ ", input_type=" ++ f.value.typeName ++ "]" ++
    match help with
    | some address => "\n    For further information visit " ++ address ++ f.cause.code
    | none => ""

end Fault

inductive Problem where
  | notText (fault : Text.Utf8.Fault)
  | malformed (error : Toml.Error)
  | invalid (faults : List Fault)

def Problem.message (help : Option String) : Problem → String
  | notText f => f.message
  | malformed e => e.message
  | invalid fs =>
    let count := toString fs.length ++ " validation error" ++ (if fs.length = 1 then "" else "s")
    "\n".intercalate ((count ++ " for ConfigFile") :: fs.map (Fault.message help))

structure Error where
  path : Path
  problem : Problem

def Error.message (help : Option String) (e : Error) : String :=
  "Invalid config file '" ++ e.path.toString ++ "': " ++ e.problem.message help

end Settings

end CrateDocs
