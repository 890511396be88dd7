import CrateDocs.Decimal.Numeral
import CrateDocs.Json.Value
import CrateDocs.Text.Cursor
import CrateDocs.Text.Surrogate

/-!
Reading JSON. Besides the values of the standard there are `NaN`, `Infinity` and `-Infinity`; a
repeated key keeps its first place and its last value. A fault says what was expected and where.
-/

namespace CrateDocs.Json

inductive Fault where
  | expectingValue
  | extraData
  | expectingKey
  | expectingColon
  | expectingComma
  | unterminatedString
  | controlCharacter
  | invalidEscape
  | invalidCodePoint
  | byteOrderMark
  deriving DecidableEq

def Fault.message : Fault → String
  | .expectingValue => "Expecting value"
  | .extraData => "Extra data"
  | .expectingKey => "Expecting property name enclosed in double quotes"
  | .expectingColon => "Expecting ':' delimiter"
  | .expectingComma => "Expecting ',' delimiter"
  | .unterminatedString => "Unterminated string starting at"
  | .controlCharacter => "Invalid control character at"
  | .invalidEscape => "Invalid \\escape"
  | .invalidCodePoint => "Invalid \\uXXXX escape"
  | .byteOrderMark => "Unexpected UTF-8 BOM (decode using utf-8-sig)"

inductive Error where
  | at (fault : Fault) (offset : Nat)
  | tooDeep
  | numeralTooLong
  deriving DecidableEq

abbrev Cursor := Text.Cursor

abbrev Reader (α : Type) := Cursor → Except Error (α × Cursor)

def fail (c : Cursor) (f : Fault) : Except Error α := .error (.at f c.offset)

def isSpace (c : Char) : Bool := c == ' ' || c == '\n' || c == '\r' || c == '\t'

def skipSpaces (c : Cursor) : Cursor := c.skip isSpace

def codeUnit? (s : List Char) : Option Nat :=
  let ds := s.take 4
  if ds.length = 4 ∧ ds.all Text.isHexDigit then some (Text.numberIn 16 ds)
  else none

/-- The character of a code unit, or the stand-in for half of a pair. -/
def charOfUnit (n : Nat) : Char :=
  if Text.Surrogate.isUnit n then Text.Surrogate.standIn n else Char.ofNat n

/-- The character that an escape stands for, and the length of the escape after `\u`. A text that
ends with the four digits has no room for the closing quote. -/
def unitEscape (s : List Char) : Option (Char × Nat) :=
  if (s.drop 4).isEmpty then none
  else
    match codeUnit? s with
    | none => none
    | some high =>
      match Text.Surrogate.isHigh high, s.drop 4 with
      | true, '\\' :: 'u' :: t =>
        if (t.drop 4).isEmpty then some (charOfUnit high, 4)
        else
          match codeUnit? t with
          | none => none
          | some low =>
            if Text.Surrogate.isLow low then some (Text.Surrogate.join high low, 10)
            else some (charOfUnit high, 4)
      | _, _ => some (charOfUnit high, 4)

def unitFaultOffset (s : List Char) : Nat :=
  if (s.drop 4).isEmpty ∨ codeUnit? s = none then 0 else 6

def simpleEscape? : Char → Option Char
  | '"' => some '"'
  | '\\' => some '\\'
  | '/' => some '/'
  | 'b' => some '\x08'
  | 'f' => some '\x0c'
  | 'n' => some '\n'
  | 'r' => some '\r'
  | 't' => some '\t'
  | _ => none

/-- Reads a string from after its opening quote, which stands at `start`. The characters read so far
are kept backwards. -/
def stringFrom (start : Nat) : Nat → List Char → Reader (List Char)
  | 0, _, _ => .error (.at .unterminatedString start)
  | fuel + 1, acc, c =>
    match c.rest with
    | [] => .error (.at .unterminatedString start)
    | '"' :: _ => .ok (acc.reverse, c.advance 1)
    | ['\\'] => .error (.at .unterminatedString start)
    | '\\' :: 'u' :: t =>
      match unitEscape t with
      | some (d, n) => stringFrom start fuel (d :: acc) (c.advance (2 + n))
      | none => .error (.at .invalidCodePoint (c.offset + 1 + unitFaultOffset t))
    | '\\' :: e :: _ =>
      match simpleEscape? e with
      | some d => stringFrom start fuel (d :: acc) (c.advance 2)
      | none => fail c .invalidEscape
    | d :: _ =>
      if d.toNat < 0x20 then fail c .controlCharacter
      else stringFrom start fuel (d :: acc) (c.advance 1)

def string (fuel : Nat) : Reader String := fun c => do
  let (s, d) ← stringFrom c.offset fuel [] (c.advance 1)
  .ok (String.ofList s, d)

def exponent? : List Char → Option (Int × Nat)
  | e :: r =>
    if e = 'e' ∨ e = 'E' then
      let (sign, ds) := match r with
        | '-' :: t => (some true, t)
        | '+' :: t => (some false, t)
        | t => (none, t)
      let ds := ds.takeWhile Char.isDigit
      if ds.isEmpty then none
      else
        let n : Int := Text.numberIn 10 ds
        some (if sign = some true then -n else n,
          1 + (if sign.isSome then 1 else 0) + ds.length)
    else none
  | [] => none

def numeral? (s : List Char) : Option (Decimal.Numeral × Nat) :=
  let negative := s.head? == some '-'
  let s1 := if negative then s.drop 1 else s
  let whole := match s1 with
    | '0' :: _ => ['0']
    | r => r.takeWhile Char.isDigit
  if whole.isEmpty then none
  else
    let s2 := s1.drop whole.length
    let fraction := match s2 with
      | '.' :: r =>
        let digits := r.takeWhile Char.isDigit
        if digits.isEmpty then none else some digits
      | _ => none
    let size := (if negative then 1 else 0) + whole.length +
      (match fraction with
        | some f => f.length + 1
        | none => 0)
    match exponent? (s.drop size) with
    | some (e, n) => some (⟨negative, whole, fraction, some e⟩, size + n)
    | none => some (⟨negative, whole, fraction, none⟩, size)

def constants : List (String × Value) :=
  [("null", .null), ("true", .bool true), ("false", .bool false), ("NaN", .float (0.0 / 0.0)),
    ("Infinity", .float (1.0 / 0.0)), ("-Infinity", .float (-1.0 / 0.0))]

def scalar : Reader Value := fun c =>
  match constants.find? fun k => c.startsWith k.1 with
  | some (word, v) => .ok (v, c.advance word.length)
  | none =>
    match numeral? c.rest with
    | some (x, n) =>
      if x.isTooLong then .error .numeralTooLong
      else .ok (if x.isWhole then .int x.integer else .float x.float, c.advance n)
    | none => fail c .expectingValue

def items (value : Reader Value) : Nat → List Value → Reader (List Value)
  | 0, _, c => fail c .expectingValue
  | fuel + 1, acc, c => do
    let (v, c) ← value c
    let c := skipSpaces c
    match c.rest with
    | ']' :: _ => .ok ((v :: acc).reverse, c.advance 1)
    | ',' :: _ => items value fuel (v :: acc) (skipSpaces (c.advance 1))
    | _ => fail c .expectingComma

def members (room : Nat) (value : Reader Value) :
    Nat → List (String × Value) → Reader (List (String × Value))
  | 0, _, c => fail c .expectingKey
  | fuel + 1, acc, c =>
    match c.rest with
    | '"' :: _ => do
      let (key, c) ← string room c
      let c := skipSpaces c
      match c.rest with
      | ':' :: _ => do
        let (v, c) ← value (skipSpaces (c.advance 1))
        let c := skipSpaces c
        match c.rest with
        | '\x7d' :: _ => .ok (Record.set key v acc, c.advance 1)
        | ',' :: _ =>
          members room value fuel (Record.set key v acc) (skipSpaces (c.advance 1))
        | _ => fail c .expectingComma
      | _ => fail c .expectingColon
    | _ => fail c .expectingKey

/-- A value with at most `depth` containers inside each other. No string has more characters and no
container more entries than there is `room` in the text. -/
def valueIn (room : Nat) : Nat → Reader Value
  | 0, c =>
    match c.rest with
    | '[' :: _ => .error .tooDeep
    | '\x7b' :: _ => .error .tooDeep
    | '"' :: _ => do
      let (s, c) ← string room c
      .ok (.text s, c)
    | _ => scalar c
  | depth + 1, c =>
    match c.rest with
    | '[' :: _ =>
      let c := skipSpaces (c.advance 1)
      match c.rest with
      | ']' :: _ => .ok (.list [], c.advance 1)
      | _ => do
        let (vs, c) ← items (valueIn room depth) room [] c
        .ok (.list vs, c)
    | '\x7b' :: _ =>
      let c := skipSpaces (c.advance 1)
      match c.rest with
      | '\x7d' :: _ => .ok (.object [], c.advance 1)
      | _ => do
        let (ms, c) ← members room (valueIn room depth) room [] c
        .ok (.object ms, c)
    | '"' :: _ => do
      let (s, c) ← string room c
      .ok (.text s, c)
    | _ => scalar c

def depthLimit : Nat := 980

def parse (s : List Char) : Except Error Value :=
  if s.head? = some '\ufeff' then .error (.at .byteOrderMark 0)
  else do
    let (v, c) ← valueIn (s.length + 1) depthLimit (skipSpaces ⟨s, 0⟩)
    let c := skipSpaces c
    if c.rest.isEmpty then .ok v else fail c .extraData

def Fault.describe (f : Fault) (p : Text.Position) : String :=
  f.message ++ ": line " ++ toString p.line ++ " column " ++ toString p.column ++ " (char " ++
    toString p.offset ++ ")"

end CrateDocs.Json
