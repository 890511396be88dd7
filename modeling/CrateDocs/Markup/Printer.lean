import CrateDocs.Markup.Node
import CrateDocs.Markup.Tree

/-!
Writing trees as markup. Attributes are sorted by name, values are quoted, and the encoding that a
page declares is written as UTF-8, which is what the markup is written in.
-/

namespace CrateDocs.Markup

namespace Printer

def escapeChar : Char → List Char
  | '&' => "&amp;".toList
  | '<' => "&lt;".toList
  | '>' => "&gt;".toList
  | c => [c]

def escape (s : List Char) : List Char := s.flatMap escapeChar

/-- A value in double quotes; in single quotes if it has double quotes and no single ones; with its
double quotes replaced if it has both. -/
def quote (s : List Char) : List Char :=
  if !s.contains '"' then '"' :: s ++ ['"']
  else if !s.contains '\'' then '\'' :: s ++ ['\'']
  else '"' :: (s.flatMap fun c => if c = '"' then "&quot;".toList else [c]) ++ ['"']

/-- A value with the encoding after each `charset=` replaced, given the character before. -/
def declareUtf8 (before : Char) : Nat → List Char → List Char
  | 0, s => s
  | _, [] => []
  | fuel + 1, c :: r =>
    let word := "charset=".toList
    if (Text.isBlank before || before == ';') && word.isPrefixOf (c :: r) then
      word ++ "utf-8".toList ++
        declareUtf8 ' ' fuel (((c :: r).drop word.length).dropWhile (· ≠ ';'))
    else c :: declareUtf8 c fuel r

def value (element : String) (attributes : List Attribute) (a : Attribute) : List Char :=
  if element ≠ "meta" then a.value.toList
  else if (attribute? "charset" attributes).isSome then
    if a.name = "charset" then "utf-8".toList else a.value.toList
  else if a.name = "content" ∧
      ((attribute? "http-equiv" attributes).map fun v => Text.lower v.toList) =
        some "content-type".toList then
    declareUtf8 '\n' (a.value.length + 1) a.value.toList
  else a.value.toList

def tagAttributes (element : String) (attributes : List Attribute) : List Char :=
  (attributes.mergeSort fun a b => decide (a.name ≤ b.name)).flatMap fun a =>
    ' ' :: a.name.toList ++ '=' :: quote (escape (value element attributes a))

def text (parent : String) (kind : TextKind) (s : List Char) : List Char :=
  match kind with
  | .comment => "<!--".toList ++ s ++ "-->".toList
  | .cdata => "<![CDATA[".toList ++ s ++ "]]>".toList
  | .instruction => "<?".toList ++ s ++ ['>']
  | .declaration => "<?".toList ++ s ++ "?>".toList
  | .doctype => "<!DOCTYPE ".toList ++ s ++ ">\n".toList
  | _ => if rawElements.contains parent then s else escape s

mutual

def node (parent : String) : Node → List Char
  | .text kind s => text parent kind s.toList
  | .element name attributes children =>
    if voidElements.contains name && children.isEmpty then
      '<' :: name.toList ++ tagAttributes name attributes ++ "/>".toList
    else
      '<' :: name.toList ++ tagAttributes name attributes ++ '>' :: nodes name children ++
        "</".toList ++ name.toList ++ ['>']

def nodes (parent : String) : List Node → List Char
  | [] => []
  | n :: r => node parent n ++ nodes parent r

end

end Printer

def Node.innerMarkup : Node → String
  | .element name _ children => String.ofList (Text.trim (Printer.nodes name children))
  | .text .. => ""

def Document.innerMarkup (d : Document) : String :=
  String.ofList (Text.trim (Printer.nodes "" d.children))

end CrateDocs.Markup
