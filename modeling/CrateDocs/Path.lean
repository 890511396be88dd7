import CrateDocs.Text.Split
import CrateDocs.Text.Surrogate
import CrateDocs.Text.Utf8

/-!
File paths. Empty parts and single dots do not count; two dots stay, since what they lead to is the
file system's to say. A path with a root stands for itself when it is joined to another one.
-/

namespace CrateDocs

/-- `root` is empty for a relative path; exactly two slashes are a root of their own. -/
structure Path where
  root : String
  parts : List String
  deriving DecidableEq

namespace Path

def rootOf (s : List Char) : String :=
  match (s.takeWhile (· == '/')).length with
  | 0 => ""
  | 2 => "//"
  | _ => "/"

def ofString (s : String) : Path :=
  ⟨rootOf s.toList, ((Text.splitChar '/' s.toList).filter fun p =>
    !(p.isEmpty || p == ['.'])).map String.ofList⟩

def toString (p : Path) : String :=
  let s := p.root ++ "/".intercalate p.parts
  if s.isEmpty then "." else s

def isAbsolute (p : Path) : Bool := !p.root.isEmpty

def join (p q : Path) : Path := if q.isAbsolute then q else ⟨p.root, p.parts ++ q.parts⟩

def child (p : Path) (s : String) : Path := p.join (ofString s)

def name (p : Path) : String := p.parts.getLast?.getD ""

def collapse (acc : List String) : List String → List String
  | [] => acc.reverse
  | p :: r => if p = ".." then collapse acc.tail r else collapse (p :: acc) r

def resolve (cwd p : Path) : Path :=
  let full := cwd.join p
  ⟨"/", collapse [] full.parts⟩

def isUrlSafe (c : Char) : Bool :=
  c.isAlphanum || c == '_' || c == '.' || c == '-' || c == '~' || c == '/'

def upperHex (n : Nat) : Char := (Text.hexDigit n).toUpper

def bytesOf (c : Char) : List UInt8 :=
  match Text.Surrogate.byte? c with
  | some b => [b]
  | none => Text.Utf8.encodeChar c

def byteCount (s : String) : Nat := (s.toList.flatMap bytesOf).length

def urlChar (c : Char) : List Char :=
  if isUrlSafe c then [c]
  else (bytesOf c).flatMap fun b => ['%', upperHex (b.toNat / 16), upperHex (b.toNat % 16)]

def fileUrl (cwd p : Path) : String :=
  "file://" ++ String.ofList ((resolve cwd p).toString.toList.flatMap urlChar)

end Path

end CrateDocs
