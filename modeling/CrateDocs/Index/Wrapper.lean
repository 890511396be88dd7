import CrateDocs.Text.Blank
import CrateDocs.Text.Lines

/-!
The script that carries a search index. The index is a quoted text, in which a backslash stands
before every quote and every backslash. The text is on one line, or it has a line for each package
that ends in a backslash, between a line that starts it and a line that ends it.
-/

namespace CrateDocs.Index.Wrapper

def unescape : List Char → List Char
  | [] => []
  | '\\' :: c :: r => c :: unescape r
  | c :: r => c :: unescape r

def escape (s : List Char) : List Char :=
  s.flatMap fun c => if c = '\\' ∨ c = '\'' then ['\\', c] else [c]

def opening : List Char := "var searchIndex = JSON.parse('".toList

def startLine : List Char := opening ++ ['\x7b', '\\']

def endLine : List Char := "\x7d');".toList

def dropContinuation (line : List Char) : List Char :=
  match line.reverse with
  | '\\' :: r => r.reverse
  | _ => line

def body? : List (List Char) → Option (List Char)
  | [] => none
  | line :: r =>
    if line = endLine then some ['\x7d'] else (body? r).map (dropContinuation line ++ ·)

def afterStart? : List (List Char) → Option (List (List Char))
  | [] => none
  | line :: r => if line = startLine then some r else afterStart? r

def onOneLine? (line : List Char) : Option (List Char) :=
  if opening.isPrefixOf line then
    let r := (Text.trimEnd (line.drop opening.length)).reverse
    let r := match r with
      | ';' :: t => t
      | t => t
    match r with
    | ')' :: '\'' :: t => some t.reverse
    | _ => none
  else none

inductive Content where
  | nothing
  | unterminated
  | found (layout : String) (text : List Char)

def content (lines : List (List Char)) : Content :=
  match afterStart? lines with
  | some r =>
    match body? r with
    | some t => .found "multi-line" ('\x7b' :: t)
    | none => .unterminated
  | none =>
    match lines.findSome? onOneLine? with
    | some t => .found "single-line" t
    | none => .nothing

theorem unescape_escape (s : List Char) : unescape (escape s) = s := by
  induction s with
  | nil => rfl
  | cons c r ih =>
    simp only [escape, List.flatMap_cons] at ih ⊢
    split
    · simp [unescape, ih]
    · next h =>
      rw [List.singleton_append, unescape, ih]
      intro d t hd
      grind

end CrateDocs.Index.Wrapper
