import CrateDocs.Charset.Name
import CrateDocs.Text.Blank
import CrateDocs.Text.Case

/-!
Reading a page from its bytes. The encodings to try are the one of a byte order mark, the one that
the page declares, UTF-8 and the Windows code page; the first one that reads all bytes is taken. If
none does, the first one that is known reads what it can.
-/

namespace CrateDocs.Markup

namespace Encoding

def mark : List UInt8 → Option String × List UInt8
  | 0xFE :: 0xFF :: a :: b :: r =>
    if a = 0 ∧ b = 0 then (none, 0xFE :: 0xFF :: a :: b :: r) else (some "utf-16be", a :: b :: r)
  | 0xFF :: 0xFE :: a :: b :: r =>
    if a = 0 ∧ b = 0 then (some "utf-32le", r) else (some "utf-16le", a :: b :: r)
  | 0xEF :: 0xBB :: 0xBF :: r => (some "utf-8", r)
  | 0 :: 0 :: 0xFE :: 0xFF :: r => (some "utf-32be", r)
  | s => (none, s)

def isSpace (c : Char) : Bool := c == ' ' || (decide ('\t' ≤ c) && decide (c ≤ '\r'))

def isQuote (c : Char) : Bool := c == '\'' || c == '"'

def lastHit (word : List Char) (f : List Char → Option α) : List Char → Option α
  | [] => none
  | c :: r =>
    match lastHit word f r with
    | some a => some a
    | none => if word.isPrefixOf (c :: r) then f ((c :: r).drop word.length) else none

def xmlDeclared? (s : List Char) : Option (List Char) :=
  let t := s.dropWhile isSpace
  if "<?".toList.isPrefixOf t then
    lastHit "encoding=".toList (fun r =>
      match r with
      | q :: v =>
        let name := v.takeWhile (!isQuote ·)
        let after := v.drop (name.length + 1)
        if isQuote q && decide (name.length < v.length) && hasClose after then some name else none
      | [] => none) ((t.drop 2).takeWhile (· ≠ '\n'))
  else none
where
  hasClose : List Char → Bool
    | '?' :: '>' :: _ => true
    | _ :: r => hasClose r
    | [] => false

def endsName (c : Char) : Bool :=
  c == ' ' || c == '/' || c == ';' || isQuote c || c == '>'

def charsetName? (s : List Char) : Option (List Char) :=
  match s.dropWhile isSpace with
  | '=' :: r =>
    let t := r.dropWhile isSpace
    let v := match t with
      | q :: w => if isQuote q then w else t
      | [] => t
    let name := v.takeWhile (!endsName ·)
    if name.length < v.length then some name
    else if v.length < t.length || (r.takeWhile isSpace).contains ' ' then some []
    else none
  | _ => none

def metaDeclared? : List Char → Option (List Char)
  | [] => none
  | c :: r =>
    let t := r.dropWhile isSpace
    let here :=
      if c = '<' ∧ "meta".toList.isPrefixOf t ∧ t[4]? ≠ some '>' then
        let s := t.drop 5
        let tag := s.takeWhile (· ≠ '>')
        lastHit "charset".toList (fun u => charsetName? (u ++ s.drop tag.length)) tag
      else none
    match here with
    | some n => some n
    | none => metaDeclared? r

def declared? (s : List UInt8) : Option String :=
  let lowered (n : Nat) := (s.take n).map fun b => Text.lowerChar (Char.ofNat b.toNat)
  let name := match xmlDeclared? (lowered 1024) with
    | some n => some n
    | none => metaDeclared? (lowered (max 2048 (s.length / 20)))
  name.map String.ofList

def candidates (s : List UInt8) : List String × List UInt8 :=
  let (m, r) := mark s
  ((m.toList ++ (declared? r).toList ++ ["utf-8", "windows-1252"]).eraseDups, r)

def pageNames : List (String × String) := [("macintosh", "mac-roman"), ("x-sjis", "shift-jis")]

/-- The character set of a name. A name that is not known may be known without its hyphens. -/
def charset? (name : String) : Option Charset :=
  Charset.named? ((pageNames.lookup name).getD name).toList <|>
    Charset.named? (name.toList.filter fun c => c != '-')

end Encoding

/-- The text of a page, and whether some of its characters had to be replaced. ASCII is not read
with replacements. -/
def decodePage (s : List UInt8) : List Char × Bool :=
  let (names, r) := Encoding.candidates s
  match names.findSome? fun n => (Encoding.charset? n).bind fun c => c.strict r with
  | some (c :: t) => (c :: t, false)
  | _ =>
    let lossy := (names.filter fun n => n != "ascii").findSome? fun n =>
      (Encoding.charset? n).bind fun c => c.lossy r
    (lossy.getD [], true)

end CrateDocs.Markup
