import CrateDocs.Text.Cursor
import CrateDocs.Text.Quoted

namespace CrateDocs.Toml

inductive Fault where
  | invalidStatement
  | expectedLineEnd
  | expectedEquals
  | expectedKey
  | expectedQuote (mark : String)
  | invalidCharacter (c : Char)
  | illegalCharacter (c : Char)
  | unterminatedString
  | loneBackslash
  | invalidHex
  | notCharacter
  | declaredTwice (key : List String)
  | immutable (key : List String)
  | redefined (key : List String)
  | overwritten
  | repeatedName (name : String)
  | openHeader
  | openListHeader
  | openList
  | openTable
  | invalidMoment
  | invalidValue
  deriving DecidableEq

/-- A key as messages show it; a single name is followed by a comma. -/
def shownKey (key : List String) : String :=
  let names := key.map Text.Quoted.quote
  "(" ++ ", ".intercalate names ++ (if names.length = 1 then "," else "") ++ ")"

def shownChar (c : Char) : String := Text.Quoted.quote (String.singleton c)

def Fault.message : Fault → String
  | .invalidStatement => "Invalid statement"
  | .expectedLineEnd => "Expected newline or end of document after a statement"
  | .expectedEquals => "Expected '=' after a key in a key/value pair"
  | .expectedKey => "Invalid initial character for a key part"
  | .expectedQuote mark => "Expected " ++ Text.Quoted.quote mark
  | .invalidCharacter c => "Found invalid character " ++ shownChar c
  | .illegalCharacter c => "Illegal character " ++ shownChar c
  | .unterminatedString => "Unterminated string"
  | .loneBackslash => "Unescaped '\\' in a string"
  | .invalidHex => "Invalid hex value"
  | .notCharacter => "Escaped character is not a Unicode scalar value"
  | .declaredTwice key => "Cannot declare " ++ shownKey key ++ " twice"
  | .immutable key => "Cannot mutate immutable namespace " ++ shownKey key
  | .redefined key => "Cannot redefine namespace " ++ shownKey key
  | .overwritten => "Cannot overwrite a value"
  | .repeatedName name => "Duplicate inline table key " ++ Text.Quoted.quote name
  | .openHeader => "Expected ']' at the end of a table declaration"
  | .openListHeader => "Expected ']]' at the end of an array declaration"
  | .openList => "Unclosed array"
  | .openTable => "Unclosed inline table"
  | .invalidMoment => "Invalid date or datetime"
  | .invalidValue => "Invalid value"

/-- Why a document cannot be read. A fault at the end of the text has no place in it. The reader has
two limits. -/
inductive Error where
  | fault (f : Fault) (place : Option Text.Position)
  | tooDeep
  | numeralTooLong (digits : Nat)
  deriving DecidableEq

def shownPlace : Option Text.Position → String
  | some p => "line " ++ toString p.line ++ ", column " ++ toString p.column
  | none => "end of document"

def Error.message : Error → String
  | .fault f place => f.message ++ " (at " ++ shownPlace place ++ ")"
  | .tooDeep => "The settings nest too deeply"
  | .numeralTooLong n =>
    "Exceeds the limit (4300 digits) for integer string conversion: value has " ++ toString n ++
      " digits; use sys.set_int_max_str_digits() to increase the limit"

end CrateDocs.Toml
