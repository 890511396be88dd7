import CrateDocs.Text.CharSet
import CrateDocs.Text.Digit
import CrateDocs.Text.Split

/-!
The scheme and the host of a URL. Controls and spaces before it and tabs and line breaks within it
do not count. Brackets of a host enclose a numbered address, and no character of a host may
decompose into one of the delimiters.

Numbered addresses of hosts. An address has eight groups of hexadecimal digits; two colons stand
for one group or more of zeros, and four octets may stand for the last two groups. A per cent sign
and the zone of the address may follow.
-/

namespace CrateDocs.Link.Address

def isGroup (s : List Char) : Bool :=
  !s.isEmpty && decide (s.length ≤ 4) && s.all Text.isHexDigit

def isOctet (s : List Char) : Bool :=
  !s.isEmpty && decide (s.length ≤ 3) && s.all Char.isDigit &&
    (s == ['0'] || s.head? != some '0') && decide (Text.numberIn 10 s ≤ 255)

def isOctets (s : List Char) : Bool :=
  let parts := Text.splitChar '.' s
  parts.length == 4 && parts.all isOctet

/-- The number of groups that some parts stand for. Octets may only come last. -/
def groupCount? (octets : Bool) : List (List Char) → Option Nat
  | [] => some 0
  | [s] => if octets && isOctets s then some 2 else if isGroup s then some 1 else none
  | s :: r => if isGroup s then (groupCount? octets r).map (· + 1) else none

def side (s : List Char) : List (List Char) := if s.isEmpty then [] else Text.splitChar ':' s

def isAddress (s : List Char) : Bool :=
  match Text.cutFirst [':', ':'] s with
  | none => groupCount? true (Text.splitChar ':' s) == some 8
  | some (a, b) =>
    match groupCount? false (side a), groupCount? true (side b) with
    | some m, some n => decide (m + n ≤ 7)
    | _, _ => false

def isZoned (s : List Char) : Bool :=
  match Text.cutChar '%' s with
  | (a, none) => isAddress a
  | (a, some zone) => isAddress a && !zone.isEmpty && !zone.contains '%'

def isVersioned : List Char → Bool
  | 'v' :: r =>
    match Text.cutChar '.' r with
    | (n, some a) => !n.isEmpty && n.all Text.isHexDigit && !a.isEmpty
    | _ => false
  | _ => false

def isBracketed (s : List Char) : Bool :=
  if s.head? = some 'v' then isVersioned s else isZoned s

end CrateDocs.Link.Address

namespace CrateDocs.Link

def isSchemeStart (c : Char) : Bool := c.isAlpha

def isSchemeChar (c : Char) : Bool := c.isAlphanum || c == '+' || c == '-' || c == '.'

def significant (url : List Char) : List Char :=
  (url.dropWhile fun c => decide (c.toNat ≤ 0x20)).filter fun c =>
    !(c == '\t' || c == '\r' || c == '\n')

def cutScheme (url : List Char) : Option (List Char × List Char) :=
  match Text.cutChar ':' url with
  | (c :: s, some rest) =>
    if isSchemeStart c && s.all isSchemeChar then some (c :: s, rest) else none
  | _ => none

/-- Characters whose compatibility form holds a delimiter of URLs. -/
def hiddenDelimiters : Text.CharSet where
  runs := [(0x2047, 0x2049), (0x2100, 0x2101), (0x2105, 0x2106), (0x2A74, 0x2A74),
    (0xFE13, 0xFE13), (0xFE16, 0xFE16), (0xFE55, 0xFE56), (0xFE5F, 0xFE5F), (0xFE6B, 0xFE6B),
    (0xFF03, 0xFF03), (0xFF0F, 0xFF0F), (0xFF1A, 0xFF1A), (0xFF1F, 0xFF20)]

def host? : List Char → Option (List Char)
  | '/' :: '/' :: r => some (r.takeWhile fun c => !(c == '/' || c == '?' || c == '#'))
  | _ => none

/-- Whether the brackets of a host are in order: at its start, but for a user name, around a
numbered address, and with nothing but a port after them. -/
def hasAddress (h : List Char) : Bool :=
  let host := ((Text.cutLast ['@'] h).map Prod.snd).getD h
  match Text.cutChar '[' host with
  | (name, none) => Address.isBracketed (Text.cutChar ':' name).1
  | (before, some r) =>
    let (address, after) := Text.cutChar ']' r
    let port := after.getD []
    before.isEmpty && (port.isEmpty || port.head? == some ':') && Address.isBracketed address

def isHost (h : List Char) : Bool :=
  (h.contains '[' == h.contains ']') && (!h.contains '[' || hasAddress h) &&
    !h.any hiddenDelimiters.contains

/-- Whether a URL has a scheme; nothing is known of it if its host is malformed. -/
def hasScheme? (url : List Char) : Option Bool :=
  let s := significant url
  let rest := ((cutScheme s).map Prod.snd).getD s
  if (host? rest).all isHost then some (cutScheme s).isSome else none

end CrateDocs.Link
