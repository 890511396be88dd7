import CrateDocs.Charset.Reader
import CrateDocs.Text.Digit
import CrateDocs.Text.Surrogate

/-!
Text with backslash escapes. All other bytes are the code points of their characters.
-/

namespace CrateDocs.Charset.Escape

def backslash : Nat := 0x5C

def hexValue (count value size : Nat) (r : List Nat) : Nat × Nat :=
  match count, r with
  | 0, _ | _, [] => (value, size)
  | k + 1, b :: t =>
    match Text.hexValue? (Char.ofNat b) with
    | some d => hexValue k (value * 16 + d) (size + 1) t
    | none => (value, size)

/-- An escape of `count` hexadecimal digits behind its letter. Too few digits are a fault of the
escape with its digits, and so is a number that is no code point. -/
def hex (count : Nat) (r : List Nat) : Reading :=
  let (n, size) := hexValue count 0 0 r
  if size < count then .fault (1 + size)
  else
    match Text.Surrogate.char? n with
    | some c => .text [c] (1 + count)
    | none => .fault (1 + count)

def octal (r : List Nat) : Reading :=
  let ds := (r.take 3).takeWhile fun b => decide (0x30 ≤ b) && decide (b ≤ 0x37)
  .text [Char.ofNat (ds.foldl (fun n d => n * 8 + (d - 0x30)) 0)] ds.length

def letters : List (Char × List Char) :=
  [('\n', []), ('\\', ['\\']), ('\'', ['\'']), ('"', ['"']), ('b', ['\x08']), ('f', ['\x0c']),
    ('t', ['\t']), ('n', ['\n']), ('r', ['\r']), ('v', ['\x0b']), ('a', ['\x07'])]

def named (r : List Nat) : Reading :=
  match r with
  | 0x7B :: t =>
    let name := t.takeWhile fun b => b != 0x7D
    if name.length = t.length then .fault (2 + name.length)
    else if name.isEmpty then .fault 2
    else .fault (3 + name.length)
  | _ => .fault 1

def full (b : Nat) (r : List Nat) : Reading :=
  if b ≠ backslash then .byte b
  else
    match r with
    | [] => .cut r
    | e :: t =>
      let c := Char.ofNat e
      match letters.lookup c with
      | some cs => .text cs 1
      | none =>
        if 0x30 ≤ e ∧ e ≤ 0x37 then octal r
        else if c = 'x' then hex 2 t
        else if c = 'u' then hex 4 t
        else if c = 'U' then hex 8 t
        else if c = 'N' then named t
        else .text ['\\', c] 1

def raw (b : Nat) (r : List Nat) : Reading :=
  if b ≠ backslash then .byte b
  else
    match r with
    | [] => .byte b
    | e :: t =>
      let c := Char.ofNat e
      if c = 'u' then hex 4 t else if c = 'U' then hex 8 t else .text ['\\', c] 1

end CrateDocs.Charset.Escape
