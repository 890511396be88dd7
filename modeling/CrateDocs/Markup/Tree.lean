import CrateDocs.Markup.Node
import CrateDocs.Markup.Token.Lexer

/-!
Trees out of tokens. An end tag closes the innermost open element of its name with all that is
open inside it, and is ignored if there is none. Elements without content close at once, and then
one end tag for each of them is ignored.
-/

namespace CrateDocs.Markup

def voidElements : List String := ["area", "base", "br", "col", "embed", "hr", "img", "input",
  "keygen", "link", "menuitem", "meta", "param", "source", "track", "wbr", "basefont", "bgsound",
  "command", "frame", "image", "isindex", "nextid", "spacer"]

def preformatted : List String := ["pre", "textarea"]

def wordAttributes : List String := ["class", "accesskey", "dropzone"]

def wordAttributesOf : String → List String
  | "a" => ["rel", "rev"]
  | "link" => ["rel", "rev"]
  | "td" => ["headers"]
  | "th" => ["headers"]
  | "form" => ["accept-charset"]
  | "object" => ["archive"]
  | "area" => ["rel"]
  | "icon" => ["sizes"]
  | "iframe" => ["sandbox"]
  | "output" => ["for"]
  | _ => []

def isWordList (element name : String) : Bool :=
  wordAttributes.contains name || (wordAttributesOf element).contains name

def Attribute.normalize (element : String) (a : Attribute) : Attribute :=
  if isWordList element a.name then ⟨a.name, " ".intercalate (wordsOf a.value)⟩ else a

def TextKind.inside : String → Option TextKind
  | "rt" => some .ruby
  | "rp" => some .rubyParen
  | "style" => some .stylesheet
  | "script" => some .script
  | "template" => some .template
  | _ => none

/-- An element whose end has not been met; its children come last first. -/
structure OpenElement where
  name : String
  attributes : List Attribute
  children : List Node

/-- A tree under construction: the open elements, innermost first; the finished top-level nodes,
last first; the text that is being collected, in pieces, last first; and the elements without
content whose end tags are to be ignored. -/
structure Builder where
  opened : List OpenElement
  top : List Node
  pending : List (List Char)
  closed : List String

namespace Builder

def empty : Builder := ⟨[], [], [], []⟩

def push (n : Node) (b : Builder) : Builder :=
  match b.opened with
  | [] => { b with top := n :: b.top }
  | e :: r => { b with opened := { e with children := n :: e.children } :: r }

/-- Blanks alone become a line feed, or a space if there is none among them. -/
def condense (keep : Bool) (s : List Char) : List Char :=
  if !keep && s.all Text.isMarkupBlank then (if s.contains '\n' then ['\n'] else [' ']) else s

def textKind (kind : TextKind) (b : Builder) : TextKind :=
  match kind with
  | .plain => (b.opened.findSome? fun e => TextKind.inside e.name).getD .plain
  | k => k

def addText (kind : TextKind) (s : List Char) (b : Builder) : Builder :=
  let keep := b.opened.any fun e => preformatted.contains e.name
  b.push (.text (b.textKind kind) (String.ofList (condense keep s)))

def flush (b : Builder) : Builder :=
  match b.pending with
  | [] => b
  | ps => addText .plain ps.reverse.flatten { b with pending := [] }

def closeInnermost (b : Builder) : Builder :=
  match b.opened with
  | [] => b
  | e :: r => push (.element e.name e.attributes e.children.reverse) { b with opened := r }

def closeTo (name : String) : Nat → Builder → Builder
  | 0, b => b
  | fuel + 1, b =>
    match b.opened with
    | [] => b
    | e :: _ => if e.name = name then b.closeInnermost else closeTo name fuel b.closeInnermost

def close (name : String) (b : Builder) : Builder :=
  let b := b.flush
  if b.opened.any fun e => e.name == name then closeTo name b.opened.length b else b

def openElement (name : String) (attributes : List Attribute) (b : Builder) : Builder :=
  let b := b.flush
  { b with opened := ⟨name, attributes.map (Attribute.normalize name), []⟩ :: b.opened }

def step (b : Builder) : Token → Builder
  | .text s => { b with pending := s :: b.pending }
  | .special k s => addText k s b.flush
  | .open name attributes selfClosed =>
    let b := b.openElement name attributes
    if selfClosed then b.close name
    else if voidElements.contains name then
      { b.close name with closed := name :: b.closed }
    else b
  | .close name =>
    if b.closed.contains name then { b with closed := b.closed.erase name } else b.close name

def finish (b : Builder) : List Node :=
  let b := b.flush
  (b.opened.foldl (fun b _ => b.closeInnermost) b).top.reverse

end Builder

def Document.ofTokens (ts : List Token) : Document := ⟨(ts.foldl Builder.step .empty).finish⟩

def Document.parse (s : List Char) : Except Fault Document := (Token.scan s).map .ofTokens

end CrateDocs.Markup
