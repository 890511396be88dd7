import CrateDocs.Text.Blank
import CrateDocs.Text.Digit
import CrateDocs.Text.Letter
import CrateDocs.Text.Pattern

/-!
The lexemes of code, which a highlighter colours one by one. A comment, a text or an attribute is
read in a mode of its own; all modes are kept on a stack, and outside of them is plain code. A
character that starts no lexeme is a lexeme itself.
-/

namespace CrateDocs.View.Lexeme

open Text (Pattern)

/-- What is being read: the name after `mod` or `fn`, a type, a lifetime, the suffix of a number, a
text, a text of bytes, a comment, or an attribute. -/
inductive Mode where
  | name
  | type
  | lifetime
  | suffix
  | text
  | bytes
  | comment
  | attribute
  deriving DecidableEq

abbrev Modes := List Mode

/-- The sizes of the lexemes at the start of a text, and the modes after them. -/
structure Rule where
  sizes : List Char → Option (List Nat)
  change : Modes → Modes

namespace Rule

def keep (p : Pattern) : Rule := ⟨fun s => (p s).map fun n => [n], id⟩

def push (m : Mode) (p : Pattern) : Rule := ⟨fun s => (p s).map fun n => [n], (m :: ·)⟩

def pop (p : Pattern) : Rule := ⟨fun s => (p s).map fun n => [n], List.tail⟩

end Rule

open Rule

def isWordChar (c : Char) : Bool := Text.isAlphanumeric c || c == '_'

def isWordStart (c : Char) : Bool := c.isAlpha || c == '_'

def blanks : Pattern := .many Text.isBlank

def word : Pattern := .andThen (.one isWordStart) (.run isWordChar)

/-- One of some words, and no longer one. -/
def wordOf (ws : List String) : Pattern := fun s =>
  let w := String.ofList (s.takeWhile isWordChar)
  if ws.contains w then some w.length else none

def typeWords : List String := ["u8", "u16", "u32", "u64", "u128", "i8", "i16", "i32", "i64",
  "i128", "usize", "isize", "f32", "f64", "char", "str", "bool", "Copy", "Send", "Sized", "Sync",
  "Unpin", "Drop", "Fn", "FnMut", "FnOnce", "drop", "Box", "ToOwned", "Clone", "PartialEq",
  "PartialOrd", "Eq", "Ord", "AsRef", "AsMut", "Into", "From", "Default", "Iterator", "Extend",
  "IntoIterator", "DoubleEndedIterator", "ExactSizeIterator", "Option", "Some", "None", "Result",
  "Ok", "Err", "String", "ToString", "Vec"]

def lineComment : Pattern := fun s =>
  match Pattern.literal "//" s, s.drop (s.takeWhile (· ≠ '\n')).length with
  | some _, _ :: _ => some ((s.takeWhile (· ≠ '\n')).length + 1)
  | _, _ => none

def commentStart : Pattern := .firstOf
  [.andThen (.literal "/**") (.one fun c => c == '\n' || !(c == '/' || c == '*')),
    .literal "/*!", .literal "/*"]

def macroParameter : Pattern := .andThen (.literal "$") (.firstOf
  [word, .andThen (.literal "(") (.optional (.literal ",")),
    .andThen (.literal ")") (.optional (.literal ",")), .optional (.literal ",")])

def defaultItem (s : List Char) : Option (List Nat) := do
  let a ← Pattern.literal "default" s
  let b ← blanks (s.drop a)
  let c ← wordOf ["type", "fn"] (s.drop (a + b))
  return [a, b, c]

def jump (s : List Char) : Option (List Nat) := do
  let a ← wordOf ["break", "continue"] s
  let b := ((s.drop a).takeWhile Text.isBlank).length
  match Pattern.andThen (.literal "'") word (s.drop (a + b)) with
  | some c => return [a, b, c]
  | none => return [a, b]

def isEscapable (c : Char) : Bool := "'\"\\nrt".toList.contains c

def isOctalDigit (c : Char) : Bool := decide ('0' ≤ c) && decide (c ≤ '7')

def numberedEscape : Pattern := fun s =>
  let n := ((s.drop 3).takeWhile Text.isHexDigit).length
  if "\\u\x7b".toList.isPrefixOf s ∧ 1 ≤ n ∧ n ≤ 6 ∧ s[3 + n]? = some '\x7d' then some (n + 4)
  else none

def byteEscape (isFirst : Char → Bool) : Pattern :=
  .sequence [.literal "\\x", .one isFirst, .one Text.isHexDigit]

def escape (isFirst : Char → Bool) : Pattern := .firstOf
  [.andThen (.literal "\\") (.one isEscapable), byteEscape isFirst, .literal "\\0", numberedEscape]

def quotedChar (isFirst : Char → Bool) : Pattern := .andThen (.literal "'") (.firstOf
  [.andThen (.andThen (.literal "\\") (.one isEscapable)) (.literal "'"),
    .andThen (byteEscape isFirst) (.literal "'"), .andThen (.literal "\\0") (.literal "'"),
    .andThen numberedEscape (.literal "'"), .andThen (.one (· ≠ '\n')) (.literal "'")])

def isDigitOrLine (c : Char) : Bool := c.isDigit || c == '_'

def exponent : Pattern := .sequence
  [.one fun c => c == 'e' || c == 'E', .optional (.one fun c => c == '+' || c == '-'),
    .many isDigitOrLine]

/-- A point and digits that no other point follows; the last digit is given up for that. -/
def fraction : Pattern := fun s =>
  match s with
  | '.' :: r =>
    let n := (r.takeWhile isDigitOrLine).length
    if r[n]? ≠ some '.' then some (n + 1) else if 0 < n then some n else none
  | _ => none

def number : Pattern := .firstOf
  [.andThen (.literal "0b") (.many fun c => c == '0' || c == '1' || c == '_'),
    .andThen (.literal "0o") (.many fun c => isOctalDigit c || c == '_'),
    .sequence [.literal "0", .one fun c => c == 'x' || c == 'X',
      .many fun c => Text.isHexDigit c || c == '_'],
    .sequence [.one Char.isDigit, .run isDigitOrLine, .optional (.firstOf
      [.sequence [.literal ".", .many isDigitOrLine, exponent], fraction, exponent])]]

def upTo (close : List Char) : List Char → Option Nat
  | [] => if close.isEmpty then some 0 else none
  | c :: r =>
    if close.isPrefixOf (c :: r) then some close.length else (upTo close r).map (· + 1)

def rawText : Pattern := fun s => do
  let start ← Pattern.andThen (.optional (.literal "b")) (.literal "r") s
  let signs := ((s.drop start).takeWhile (· == '#')).length
  let quote ← Pattern.literal "\"" (s.drop (start + signs))
  let rest ← upTo ('"' :: List.replicate signs '#') (s.drop (start + signs + quote))
  return start + signs + quote + rest

def codeRules : List Rule := [
  keep blanks, keep lineComment, push .comment commentStart, keep macroParameter,
  push .name (wordOf ["mod", "fn"]), push .type (wordOf ["struct", "enum", "type", "union"]),
  ⟨defaultItem, id⟩,
  keep (fun s => if (s.drop 2).head?.any isWordChar then Pattern.literal "::" s else none),
  push .type (.firstOf [.literal ":", .literal "->"]), ⟨jump, id⟩,
  keep (quotedChar isOctalDigit), keep (.andThen (.literal "b") (quotedChar Text.isHexDigit)),
  push .suffix number, push .bytes (.literal "b\""), push .text (.literal "\""), keep rawText,
  push .lifetime (.literal "'"), keep word, push .attribute (.literal "#["),
  push .attribute (.literal "#![")]

def textRules : List Rule := [
  pop (.literal "\""), keep (escape isOctalDigit), keep (.many fun c => !(c == '\\' || c == '"')),
  keep (.literal "\\")]

def rules : Mode → List Rule
  | .name => [keep blanks, pop word]
  | .type => [keep blanks, keep (.literal "&"), push .lifetime (.literal "'"),
      keep (wordOf typeWords), pop word]
  | .lifetime => [keep (.firstOf [.literal "static", .literal "_"]),
      keep (.andThen (.many isWordStart) (.run isWordChar))]
  | .suffix => [pop (.firstOf
      [.andThen (.one fun c => c == 'u' || c == 'i') (.firstOf [.literal "8", .literal "16",
        .literal "32", .literal "64", .literal "size"]),
        .andThen (.literal "f") (.firstOf [.literal "32", .literal "64"])])]
  | .text => textRules
  | .bytes => keep (byteEscape fun c => Text.isHexDigit c && !isOctalDigit c) :: textRules
  | .comment => [keep (.many fun c => !(c == '*' || c == '/')), push .comment (.literal "/*"),
      pop (.literal "*/"), keep (.one fun _ => true)]
  | .attribute => [push .text (.literal "\""), push .attribute (.literal "["), pop (.literal "]"),
      keep (.many fun c => !(c == '"' || c == '[' || c == ']'))]

/-- The lexemes at the start of a text and the modes after them. Where no rule fits a mode ends, and
plain code goes on after one character. -/
def next (modes : Modes) (s : List Char) : List Nat × Modes :=
  let found (rs : List Rule) : Option (List Nat × Modes) :=
    rs.findSome? fun r => (r.sizes s).map fun ns => (ns, r.change modes)
  match modes with
  | [] => (found codeRules).getD ([1], [])
  | m :: ms => (found (rules m)).getD ([], ms)

def taken (sizes : List Nat) : Nat := sizes.foldl (· + ·) 0

def sizesFrom : Nat → Modes → List Char → List Nat
  | 0, _, _ => []
  | _, _, [] => []
  | fuel + 1, modes, s =>
    let (ns, modes) := next modes s
    ns ++ sizesFrom fuel modes (s.drop (taken ns))

def firstLine (s : List Char) : List Nat :=
  match s with
  | '#' :: '!' :: c :: r =>
    if c = '[' ∨ c = '\n' ∨ c = '\r' then [] else [(r.takeWhile (· ≠ '\n')).length + 3]
  | _ => []

def sizes (s : List Char) : List Nat :=
  let head := firstLine s
  head ++ sizesFrom (2 * s.length + 1) [] (s.drop (taken head))

end CrateDocs.View.Lexeme
