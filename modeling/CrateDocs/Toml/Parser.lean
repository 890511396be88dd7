import CrateDocs.Text.Split
import CrateDocs.Toml.Document
import CrateDocs.Toml.Scalar

/-!
Reading a settings document: statements line by line, each an entry of a table or the header of the
table that the next entries are for. The first fault ends the reading.
-/

namespace CrateDocs.Toml

open Text (Cursor)

inductive Stop where
  | at (f : Fault) (offset : Nat)
  | tooDeep
  | numeralTooLong (digits : Nat)

abbrev Reader (α : Type) := Cursor → Except Stop (α × Cursor)

def fail (c : Cursor) (f : Fault) : Except Stop α := .error (.at f c.offset)

def isSpace (c : Char) : Bool := c == ' ' || c == '\t'

def isGap (c : Char) : Bool := isSpace c || c == '\n'

def isControl (c : Char) : Bool := decide (c.toNat < 32) || c.toNat == 127

def isIllegal (c : Char) : Bool := isControl c && c != '\t'

def isIllegalInBlock (c : Char) : Bool := isIllegal c && c != '\n'

def isNameChar (c : Char) : Bool := c.isAlphanum || c == '-' || c == '_'

def skipSpaces (c : Cursor) : Cursor := c.skip isSpace

def refuse (bad : Char → Bool) (s : List Char) (c : Cursor) : Except Stop Unit :=
  match s.find? bad with
  | some d => .error (.at (.invalidCharacter d) (c.offset + (s.takeWhile fun e => !bad e).length))
  | none => .ok ()

def skipComment (c : Cursor) : Except Stop Cursor :=
  match c.rest with
  | '#' :: r => do
    let s := r.takeWhile (· ≠ '\n')
    refuse isIllegal s (c.advance 1)
    .ok (c.advance (1 + s.length))
  | _ => .ok c

def skipGaps : Nat → Cursor → Except Stop Cursor
  | 0, c => .ok c
  | fuel + 1, c => do
    let d ← skipComment (c.skip isGap)
    if d.offset = c.offset then .ok d else skipGaps fuel d

def plainText (mark : String) (bad : Char → Bool) : Reader (List Char) := fun c =>
  match Text.cutFirst mark.toList c.rest with
  | none => .error (.at (.expectedQuote mark) (c.offset + c.rest.length))
  | some (s, r) => do
    refuse bad s c
    .ok (s, c.before r)

def simpleEscape? : Char → Option Char
  | 'b' => some '\x08'
  | 't' => some '\t'
  | 'n' => some '\n'
  | 'f' => some '\x0c'
  | 'r' => some '\r'
  | '"' => some '"'
  | '\\' => some '\\'
  | _ => none

def numberedChar (width : Nat) : Reader (List Char) := fun c =>
  let ds := c.rest.take width
  let n := Text.numberIn 16 ds
  if ds.length = width ∧ ds.all Text.isHexDigit then
    if n.isValidChar then .ok ([Char.ofNat n], c.advance width)
    else fail (c.advance width) .notCharacter
  else fail c .invalidHex

/-- An escape from its backslash on. In a text of several lines a backslash at the end of a line
takes away the blanks up to the next character. -/
def escape (inBlock : Bool) : Reader (List Char) := fun c =>
  let d := c.advance 2
  match c.rest with
  | '\\' :: e :: _ =>
    if inBlock && e == '\n' then .ok ([], d.skip isGap)
    else if inBlock && isSpace e then
      let d := skipSpaces d
      match d.rest with
      | [] => .ok ([], d)
      | '\n' :: _ => .ok ([], d.skip isGap)
      | _ => fail d .loneBackslash
    else if e = 'u' then numberedChar 4 d
    else if e = 'U' then numberedChar 8 d
    else
      match simpleEscape? e with
      | some x => .ok ([x], d)
      | none => fail d .loneBackslash
  | _ => fail d .loneBackslash

def escapedText (inBlock : Bool) : Nat → List Char → Reader (List Char)
  | 0, _, c => fail c .unterminatedString
  | fuel + 1, acc, c =>
    match c.rest with
    | [] => fail c .unterminatedString
    | '"' :: _ =>
      if !inBlock then .ok (acc.reverse, c.advance 1)
      else if c.startsWith "\"\"\"" then .ok (acc.reverse, c.advance 3)
      else escapedText inBlock fuel ('"' :: acc) (c.advance 1)
    | '\\' :: _ => do
      let (s, c) ← escape inBlock c
      escapedText inBlock fuel (s.reverse ++ acc) c
    | d :: _ =>
      if (if inBlock then isIllegalInBlock d else isIllegal d) then fail c (.illegalCharacter d)
      else escapedText inBlock fuel (d :: acc) (c.advance 1)

/-- A text of several lines. A line end after the opening quotes does not count, and up to two
quotes before the closing ones belong to the text. -/
def block (quote : Char) (body : Reader (List Char)) : Reader (List Char) := fun c => do
  let c := c.advance 3
  let c := if c.startsWith "\n" then c.advance 1 else c
  let (s, c) ← body c
  let n := min 2 (c.run (· == quote)).length
  .ok (s ++ List.replicate n quote, c.advance n)

def lineText (room : Nat) : Reader (List Char) := fun c =>
  match c.rest with
  | '\'' :: _ => plainText "'" isIllegal (c.advance 1)
  | _ => escapedText false room [] (c.advance 1)

def text (room : Nat) : Reader (List Char) := fun c =>
  if c.startsWith "\"\"\"" then block '"' (escapedText true room []) c
  else if c.startsWith "'''" then block '\'' (plainText "'''" isIllegalInBlock) c
  else lineText room c

def name (room : Nat) : Reader String := fun c =>
  match c.rest with
  | [] => fail c .expectedKey
  | d :: _ =>
    if isNameChar d then .ok (String.ofList (c.run isNameChar), c.skip isNameChar)
    else if d = '\'' ∨ d = '"' then do
      let (s, c) ← lineText room c
      .ok (String.ofList s, c)
    else fail c .expectedKey

def key (room : Nat) : Nat → Reader Key
  | 0, c => fail c .expectedKey
  | fuel + 1, c => do
    let (n, c) ← name room c
    let c := skipSpaces c
    match c.rest with
    | '.' :: _ => do
      let (k, c) ← key room fuel (skipSpaces (c.advance 1))
      .ok (n :: k, c)
    | _ => .ok ([n], c)

def number : Reader Value := fun c =>
  match basedNumber? c.rest with
  | some (n, r) => .ok (.int n, c.before r)
  | none =>
    match numeral? c.rest with
    | some (x, r) =>
      if x.isTooLong then .error (.numeralTooLong x.whole.length)
      else .ok (if x.isWhole then .int x.integer else .float x.float, c.before r)
    | none =>
      match specials.find? fun s => c.startsWith s.1 with
      | some (word, x) => .ok (.float x, c.advance word.length)
      | none => fail c .invalidValue

def scalar (room : Nat) : Reader Value := fun c =>
  if c.startsWith "\"" || c.startsWith "'" then do
    let (s, c) ← text room c
    .ok (.text (String.ofList s), c)
  else if c.startsWith "true" then .ok (.bool true, c.advance 4)
  else if c.startsWith "false" then .ok (.bool false, c.advance 5)
  else
    match moment? c.rest with
    | some (some m, r) => .ok (.moment m, c.before r)
    | some (none, _) => fail c .invalidMoment
    | none => number c

def items (room : Nat) (value : Reader Value) : Nat → List Value → Reader (List Value)
  | 0, _, c => fail c .openList
  | fuel + 1, acc, c => do
    let c ← skipGaps room c
    match c.rest with
    | ']' :: _ => .ok (acc.reverse, c.advance 1)
    | _ => do
      let (v, c) ← value c
      let c ← skipGaps room c
      match c.rest with
      | ']' :: _ => .ok ((v :: acc).reverse, c.advance 1)
      | ',' :: _ => items room value fuel (v :: acc) (c.advance 1)
      | _ => fail c .openList

def entry (room : Nat) (value : Reader Value) : Reader (Key × Value) := fun c => do
  let (k, c) ← key room room c
  match c.rest with
  | '=' :: _ => do
    let (v, c) ← value (skipSpaces (c.advance 1))
    .ok ((k, v), c)
  | _ => fail c .expectedEquals

def entries (room : Nat) (value : Reader Value) : Nat → Line → Reader Table
  | 0, _, c => fail c .openTable
  | fuel + 1, x, c => do
    let ((k, v), c) ← entry room value c
    match x.assign k v with
    | .error f => fail c f
    | .ok x =>
      let c := skipSpaces c
      match c.rest with
      | '\x7d' :: _ => .ok (x.entries, c.advance 1)
      | ',' :: _ => entries room value fuel x (skipSpaces (c.advance 1))
      | _ => fail c .openTable

/-- A value with lists and tables inside each other. Of the `depth` that there is, a list takes two
levels and a table takes three. No part of a value has more characters or items than there is `room`
in the text. -/
def valueIn (room : Nat) : Nat → Reader Value
  | depth + 3, c =>
    match c.rest with
    | '[' :: _ => do
      let (vs, c) ← items room (valueIn room (depth + 1)) room [] (c.advance 1)
      .ok (.list vs, c)
    | '\x7b' :: _ =>
      let c := skipSpaces (c.advance 1)
      match c.rest with
      | '\x7d' :: _ => .ok (.table [], c.advance 1)
      | _ => do
        let (t, c) ← entries room (valueIn room depth) room ⟨[], []⟩ c
        .ok (.table t, c)
    | _ => scalar room c
  | _, c =>
    match c.rest with
    | '[' :: _ => .error .tooDeep
    | '\x7b' :: _ => .error .tooDeep
    | _ => scalar room c

def depthLimit : Nat := 984

structure State where
  document : Document
  header : Key

def header (room : Nat) (d : Document) : Reader State := fun c => do
  let isList := c.startsWith "[["
  let (k, c) ← key room room (skipSpaces (c.advance (if isList then 2 else 1)))
  match if isList then d.openNext k else d.openTable k with
  | .error f => fail c f
  | .ok d =>
    if c.startsWith (if isList then "]]" else "]") then
      .ok (⟨d, k⟩, c.advance (if isList then 2 else 1))
    else fail c (if isList then .openListHeader else .openHeader)

def statement (room : Nat) (s : State) : Reader State := fun c =>
  match c.rest with
  | [] => .ok (s, c)
  | '#' :: _ => .ok (s, c)
  | '[' :: _ => header room s.document.settle c
  | d :: _ =>
    if isNameChar d || d == '"' || d == '\'' then do
      let ((k, v), c) ← entry room (valueIn room depthLimit) c
      match s.document.assign s.header k v with
      | .error f => fail c f
      | .ok d => .ok (⟨d, s.header⟩, c)
    else fail c .invalidStatement

def statements (room : Nat) : Nat → State → Cursor → Except Stop State
  | 0, s, _ => .ok s
  | fuel + 1, s, c => do
    let c := skipSpaces c
    match c.rest with
    | [] => .ok s
    | '\n' :: _ => statements room fuel s (c.advance 1)
    | _ => do
      let (s, c) ← statement room s c
      let c ← skipComment (skipSpaces c)
      match c.rest with
      | [] => .ok s
      | '\n' :: _ => statements room fuel s (c.advance 1)
      | _ => fail c .expectedLineEnd

def dropReturns : List Char → List Char
  | '\r' :: '\n' :: r => '\n' :: dropReturns r
  | c :: r => c :: dropReturns r
  | [] => []

def Stop.error (s : List Char) : Stop → Error
  | .at f offset => .fault f (if s.length ≤ offset then none else some (Text.positionIn s offset))
  | .tooDeep => .tooDeep
  | .numeralTooLong n => .numeralTooLong n

def parse (document : List Char) : Except Error Table :=
  let s := dropReturns document
  let room := s.length + 1
  match statements room room ⟨.empty, []⟩ ⟨s, 0⟩ with
  | .ok r => .ok r.document.root
  | .error e => .error (e.error s)

end CrateDocs.Toml
