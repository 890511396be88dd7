import CrateDocs.Text.Split
import CrateDocs.Markup.Token.Tag

/-!
Cutting a marked-up text into tokens. The text is read twice: the first reading stops at the first
construct that does not end, and the second one goes on from there and takes what does not end as
text. After the second reading has stopped, the rest is text, except within a script or a style
sheet, whose unfinished content is dropped.
-/

namespace CrateDocs.Markup

def rawElements : List String := ["script", "style"]

namespace Lexer

inductive Step where
  | next (tokens : List Token) (raw : Option String) (rest : List Char)
  | stop (tokens : List Token) (rest : List Char)
  | unfinished

def startTag (s : List Char) : Except Fault Step := do
  match Tag.name? (s.drop 1) with
  | none => .ok .unfinished
  | some (name, r) =>
    match Tag.ending (name.getLastD ' ') r with
    | .unfinished => .ok .unfinished
    | .broken n pairs =>
      let _ ← Tag.ofPairs pairs
      .ok (.next [.text (s.take (1 + name.length + n))] none (r.drop n))
    | .closed n selfClosed pairs =>
      let tag := String.ofList (Text.lower name)
      let attributes ← Tag.ofPairs pairs
      .ok (.next [.open tag attributes selfClosed]
        (if !selfClosed && rawElements.contains tag then some tag else none) (r.drop n))

def cutAngle (s : List Char) : Option (List Char × List Char) :=
  match Text.cutChar '>' s with
  | (a, some r) => some (a, r)
  | _ => none

def isEndTagChar (c : Char) : Bool :=
  c.isAlphanum || c == '-' || c == '.' || c == ':' || c == '_'

def plainEndTag? (s : List Char) : Option (List Char × List Char) :=
  let t := s.dropWhile Text.isBlank
  let name := t.takeWhile isEndTagChar
  match name, (t.drop name.length).dropWhile Text.isBlank with
  | c :: _, '>' :: r => if Tag.isLetter c then some (name, r) else none
  | _, _ => none

def endTag (s : List Char) : Step :=
  match cutAngle s with
  | none => .unfinished
  | some (bogus, after) =>
    match plainEndTag? (s.drop 2) with
    | some (name, r) => .next [.close (String.ofList (Text.lower name))] none r
    | none =>
      match Tag.name? (s.drop 2) with
      | some (name, _) => .next [.close (String.ofList (Text.lower name))] none after
      | none =>
        if bogus.length = 2 then .next [] none after
        else .next [.special .comment (bogus.drop 2)] none after

/-- The text before the first hit of `close`, which tells how long a hit is, and the text after. -/
def cutClose (close : List Char → Option (List Char)) : List Char →
    Option (List Char × List Char)
  | [] => (close []).map fun r => ([], r)
  | c :: r =>
    match close (c :: r) with
    | some t => some ([], t)
    | none => (cutClose close r).map fun p => (c :: p.1, p.2)

def commentClose : List Char → Option (List Char)
  | '-' :: '-' :: r =>
    match r.dropWhile Text.isBlank with
    | '>' :: t => some t
    | _ => none
  | _ => none

def bracketClose : List Char → Option (List Char)
  | ']' :: r =>
    match r.dropWhile Text.isBlank with
    | '>' :: t => some t
    | _ => none
  | _ => none

def doubleBracketClose : List Char → Option (List Char)
  | ']' :: r => bracketClose (r.dropWhile Text.isBlank)
  | _ => none

def isSectionNameChar (c : Char) : Bool := c.isAlphanum || c == '-' || c == '_' || c == '.'

def markedSection (s : List Char) : Except Fault Step :=
  let name := s.takeWhile isSectionNameChar
  let after := (s.drop name.length).dropWhile Text.isBlank
  match s with
  | [] => .ok .unfinished
  | c :: _ =>
    if !Tag.isLetter c then .error .unknownSection
    else if after.isEmpty then .ok .unfinished
    else
      let word := String.ofList (Text.lower name)
      let close := if ["temp", "cdata", "ignore", "include", "rcdata"].contains word then
          some doubleBracketClose
        else if ["if", "else", "endif"].contains word then some bracketClose
        else none
      match close.map fun f => cutClose f s with
      | none => .error .unknownSection
      | some none => .ok .unfinished
      | some (some (content, r)) =>
        if Text.lower (content.take 6) == "cdata[".toList then
          .ok (.next [.special .cdata (content.drop 6)] none r)
        else .ok (.next [.special .declaration content] none r)

def declaration (s : List Char) : Except Fault Step :=
  if "<![".toList.isPrefixOf s then markedSection (s.drop 3)
  else
    match cutAngle s with
    | none => .ok .unfinished
    | some (content, r) =>
      if Text.lower (s.take 9) == "<!doctype".toList then
        .ok (.next [.special .doctype (content.drop 10)] none r)
      else .ok (.next [.special .comment (content.drop 2)] none r)

def numberRef (s : List Char) : Option (Except Fault Char × List Char) :=
  match CharRef.number? s with
  | some (n, c :: r) =>
    if Text.isHexDigit c then none
    else some (n.map CharRef.numbered, CharRef.dropSemicolon (c :: r))
  | _ => none

def isRefChar (c : Char) : Bool := c.isAlphanum || c == '-' || c == '.'

def refName? (s : List Char) : Option (List Char) :=
  match s with
  | [] => none
  | c :: _ =>
    let run := s.takeWhile isRefChar
    if !Tag.isLetter c then none
    else if !(s.drop run.length).isEmpty then some run
    else
      match (run.reverse.dropWhile Char.isAlphanum).drop 1 with
      | [] => none
      | r => some r.reverse

def namedReference (atEnd : Bool) (s : List Char) : Step :=
  let r := s.drop 1
  match refName? r with
  | some name =>
    .next [.text ((CharRef.named? name).getD ('&' :: name))] none
      (CharRef.dropSemicolon (r.drop name.length))
  | none =>
    match r with
    | [] => .stop [] s
    | [c] => if Tag.isLetter c && atEnd then .stop [] r
      else if Tag.isLetter c then .stop [] s else .next [.text ['&']] none r
    | c :: _ => if Tag.isLetter c then .stop [] s else .next [.text ['&']] none r

def reference (atEnd : Bool) (s : List Char) : Except Fault Step :=
  match s.drop 1 with
  | '#' :: r =>
    match numberRef r with
    | some (v, t) => v.map fun c => .next [.text [c]] none t
    | none => .ok (if s.contains ';' then .stop [.text ['&', '#']] r else .stop [] s)
  | _ => .ok (namedReference atEnd s)

/-- A construct that does not end, as text: up to the next `>`, or else up to the next `<`, or else
one character. -/
def giveUp (s : List Char) : List Char × List Char :=
  let n := match Text.cutChar '>' (s.drop 1) with
    | (a, some _) => a.length + 2
    | _ =>
      match Text.cutChar '<' (s.drop 1) with
      | (a, some _) => a.length + 1
      | _ => 1
  (s.take n, s.drop n)

def construct (s : List Char) : Except Fault Step :=
  match s.drop 1 with
  | '/' :: _ => .ok (endTag s)
  | '!' :: r =>
    if "--".toList.isPrefixOf r then
      match cutClose commentClose (r.drop 2) with
      | none => .ok .unfinished
      | some (content, t) => .ok (.next [.special .comment content] none t)
    else declaration s
  | '?' :: r =>
    match cutAngle r with
    | none => .ok .unfinished
    | some (content, t) => .ok (.next [.special .instruction content] none t)
  | c :: r => if Tag.isLetter c then startTag s else .ok (.next [.text ['<']] none (c :: r))
  | [] => .ok (.stop [] s)

def rawClose (tag : String) : List Char → Option (List Char)
  | '<' :: '/' :: r =>
    match plainEndTag? r with
    | some (name, t) => if Text.lower name == tag.toList then some t else none
    | none => none
  | _ => none

def step (atEnd : Bool) (raw : Option String) (s : List Char) : Except Fault Step :=
  match raw with
  | some tag =>
    match cutClose (rawClose tag) s with
    | some ([], r) => .ok (.next [.close tag] none r)
    | some (content, r) => .ok (.next [.text content, .close tag] none r)
    | none => .ok (.stop [] s)
  | none =>
    let plain := s.takeWhile fun c => !(c == '&' || c == '<')
    if plain.isEmpty then
      match s with
      | '&' :: _ => reference atEnd s
      | _ =>
        (construct s).map fun t =>
          match t with
          | .unfinished =>
            if atEnd then .next [.text (giveUp s).1] none (giveUp s).2 else .stop [] s
          | t => t
    else .ok (.next [.text plain] none (s.drop plain.length))

structure Reading where
  tokens : List Token
  raw : Option String
  rest : List Char

def read (atEnd : Bool) : Nat → List Token → Option String → List Char → Except Fault Reading
  | 0, acc, raw, s => .ok ⟨acc, raw, s⟩
  | fuel + 1, acc, raw, s =>
    if s.isEmpty then .ok ⟨acc, raw, []⟩
    else
      match step atEnd raw s with
      | .error e => .error e
      | .ok (.next ts raw r) => read atEnd fuel (ts.reverse ++ acc) raw r
      | .ok (.stop ts r) => .ok ⟨ts.reverse ++ acc, raw, r⟩
      | .ok .unfinished => .ok ⟨acc, raw, s⟩

end Lexer

def Token.scan (s : List Char) : Except Fault (List Token) := do
  let fuel := s.length + 1
  let first ← Lexer.read false fuel [] none s
  let second ← Lexer.read true fuel first.tokens first.raw first.rest
  let rest := if second.rest.isEmpty || second.raw.isSome then [] else [Token.text second.rest]
  .ok (second.tokens.reverse ++ rest)

end CrateDocs.Markup
