import CrateDocs.Decimal.Numeral
import CrateDocs.Selector.Basic
import CrateDocs.Selector.Escape

/-!
Tokens of written selectors. What token comes next depends on the text from there on only; a text
without a token ends the tokens with a fault.
-/

namespace CrateDocs.Selector

inductive Token where
  | simple (s : Simple)
  | named (s : Except Fault Simple)
  | pseudo (name : String) (opens : Bool)
  | countOf (c : Count)
  | combinator (k : Combinator)
  | comma
  | close

abbrev Scan := Except Fault (Option (Token × List Char))

def readName (s : List Char) : Except Fault String := (unescape false s).map String.ofList

def afterChar? (c : Char) : List Char → Option (List Char)
  | d :: r => if c = d then some r else none
  | [] => none

def afterWord? (word : String) (s : List Char) : Option (List Char) :=
  if (s.take word.length).map Char.toLower = word.toList then some (s.drop word.length) else none

def simpleOf (f : String → Simple) (s : List Char) : Scan :=
  match name? s with
  | some (n, r) => do return some (.simple (f (← readName n)), r)
  | none => .ok none

def afterClose? (s : List Char) : Option (List Char) := afterChar? ')' (skip s)

def afterValues? (s : List Char) : Option (List Char) :=
  match value? Text.isHexDigit s with
  | none => none
  | some (_, r) =>
    match afterChar? ',' (skip r) with
    | none => some r
    | some t =>
      let u := skip t
      if u.length < s.length then afterValues? u else none
termination_by s.length

def isLowerHex (c : Char) : Bool := c.isDigit || (decide ('a' ≤ c) && decide (c ≤ 'f'))

/-- The values in a text, whatever else it has. Capital letters are no digits of escapes here. -/
def valuesIn (s : List Char) : List Written :=
  match s with
  | [] => []
  | c :: r =>
    match value? isLowerHex (c :: r) with
    | some (v, t) => if t.length ≤ r.length then v :: valuesIn t else []
    | none =>
      match afterChar? ',' (skip (c :: r)) with
      | some t => if (skip t).length ≤ r.length then valuesIn (skip t) else []
      | none => valuesIn r
termination_by s.length

def readValues (s : List Char) : Except Fault (List String) :=
  (valuesIn s).mapM fun v => v.read.map String.ofList

def digits (s : List Char) : Except Fault Nat :=
  if Decimal.numeralLimit < s.length then .error .numeralTooLong else .ok (Text.numberIn 10 s)

def sign? : List Char → Option (Int × List Char)
  | '+' :: r => some (1, r)
  | '-' :: r => some (-1, r)
  | _ => none

def offset? (s : List Char) : Option (Int × List Char × List Char) := do
  let (sign, r) ← sign? (skip s)
  let t := skip r
  let ds := t.takeWhile Char.isDigit
  if ds.isEmpty then none else some (sign, ds, t.drop ds.length)

def step? (s : List Char) : Option (Except Fault Amount × List Char) :=
  let (sign, r) := (sign? s).getD (1, s)
  let ds := r.takeWhile Char.isDigit
  let t := r.drop ds.length
  match afterWord? "n" t with
  | none =>
    if ds.isEmpty then none
    else some ((digits ds).map fun n => Amount.only (sign * (n : Int)), t)
  | some u =>
    let step : Except Fault Int :=
      if ds.isEmpty then .ok sign else (digits ds).map fun n => sign * (n : Int)
    match offset? u with
    | none => some (step.map fun a => Amount.every a 0, u)
    | some (way, bs, v) => some ((do
        let a ← step
        let b ← digits bs
        return Amount.every a (way * (b : Int))), v)

def amount? (s : List Char) : Option (Except Fault Amount × List Char) :=
  match step? s with
  | some p => some p
  | none =>
    match afterWord? "even" s with
    | some r => some (.ok (.every 2 0), r)
    | none => (afterWord? "odd" s).map fun r => (.ok (.every 2 1), r)

def afterOf? (s : List Char) : Option (List Char) := do
  let r ← afterBlank? (skipComments s)
  let t ← afterWord? "of" (skip r)
  (afterBlank? (skipComments t)).map skip

def countToken (ofType fromEnd : Bool) (s : List Char) : Scan :=
  match amount? s with
  | none => .ok none
  | some (amount, r) =>
    match afterClose? r with
    | some t => do return some (.simple (.count ⟨← amount, ofType, fromEnd⟩ none), t)
    | none =>
      match if ofType then none else afterOf? r with
      | some t => do return some (.countOf ⟨← amount, ofType, fromEnd⟩, t)
      | none => .ok none

/-- Conditions on texts, from after their opening parenthesis. The escapes of the values count
twice: for what the values are, and for what they say. -/
def containsToken (own : Bool) (s : List Char) : Scan :=
  match (afterValues? s).bind fun r => (afterClose? r).map fun t => (dropped s r, t) with
  | some (vs, t) => do
    return some (.simple (.contains [(own, ← readValues (← unescape false vs))]), t)
  | none => .ok none

def langToken (s : List Char) : Scan :=
  match (afterValues? s).bind fun r => (afterClose? r).map fun t => (dropped s r, t) with
  | some (vs, t) => do return some (.simple (.lang (← readValues vs)), t)
  | none => .ok none

def directionToken (s : List Char) : Scan :=
  let after (word : String) (d : Text.Direction) : Option (Token × List Char) :=
    (afterWord? word s).bind fun r => (afterClose? r).map fun t => (.simple (.direction d), t)
  .ok ((after "ltr" .leftToRight).or (after "rtl" .rightToLeft))

def specialToken (name : String) (s : List Char) : Scan :=
  match name with
  | "contains" | "-soup-contains" => containsToken false s
  | "-soup-contains-own" => containsToken true s
  | "nth-child" => countToken false false s
  | "nth-last-child" => countToken false true s
  | "nth-of-type" => countToken true false s
  | "nth-last-of-type" => countToken true true s
  | "lang" => langToken s
  | "dir" => directionToken s
  | _ => .ok none

/-- A pseudo-class. Names that start with two hyphens are for classes that someone has defined, and
nobody has. -/
def pseudoToken (raw rest : List Char) : Scan := do
  let name := asciiLower (← readName raw)
  let opened := (afterChar? '(' rest).map skip
  match ← (opened.map (specialToken name)).getD (.ok none) with
  | some t => return some t
  | none =>
    if "--".toList.isPrefixOf raw then .error .malformed
    else return some (.pseudo name opened.isSome, opened.getD rest)

def namedToken (s : List Char) : Option (Token × List Char) :=
  let local? (t : List Char) : Option (List Char × List Char) :=
    match t with
    | '*' :: r => some (['*'], r)
    | _ => name? t
  let make (space : Option (List Char)) (name : List Char) : Token :=
    .named (do return .named (← space.mapM readName) (← readName name))
  let first := local? s
  let (space, r) := first.getD ([], s)
  match (afterChar? '|' r).bind local? with
  | some (n, t) => some (make (some space) n, t)
  | none => first.map fun (n, t) => (make none n, t)

def comparison? : List Char → Option (Char × List Char)
  | '=' :: r => some ('=', r)
  | c :: '=' :: r => if "!~^|*$".contains c then some (c, r) else none
  | _ => none

/-- Letters that tell whether case counts. There are variants of them that tell nothing. -/
def flag? : List Char → Option (Bool × List Char)
  | c :: r =>
    if c = 'i' ∨ c = 'I' then some (true, r)
    else if ['s', 'S', '\u017f', '\u0130', '\u0131'].contains c then some (false, r)
    else none
  | [] => none

def testOf (comparison : Char) (value : String) : Test :=
  match comparison with
  | '^' => .startsWith value
  | '$' => .endsWith value
  | '*' => .contains value
  | '~' => .hasWord value
  | '|' => .dashed value
  | _ => .equals value

def attributeTest? (s : List Char) : Option ((Char × Written × Option Bool) × List Char) := do
  let (k, r) ← comparison? (skip s)
  let (v, t) ← value? Text.isHexDigit (skip r)
  match (flag? (skip t)).bind fun (f, u) => (afterChar? ']' (skip u)).map fun w => (f, w) with
  | some (f, w) => some ((k, v, some f), w)
  | none => (afterChar? ']' (skip t)).map fun w => ((k, v, none), w)

/-- A condition on an attribute of that name. The values of one attribute have no case. -/
def attributeSimple (raw : List Char) (test : Option (Char × Written × Option Bool)) :
    Except Fault Simple := do
  let name ← readName raw
  match test with
  | none => return .attribute name .present false
  | some (k, v, flag) =>
    let value := String.ofList (← v.read)
    let condition := Simple.attribute name (testOf k value) (flag.getD (asciiLower name == "type"))
    if k = '!' then return .choices [.mk true false [.all [condition]]] else return condition

def attributeFrom (s : List Char) : Option (Except Fault Simple × List Char) := do
  let (n, r) ← name? s
  match attributeTest? r with
  | some (t, u) => some (attributeSimple n (some t), u)
  | none => (afterChar? ']' (skip r)).map fun u => (attributeSimple n none, u)

/-- A condition on an attribute, from after its opening bracket. The name may have a space, which
says nothing but has to be readable. -/
def attributeToken (s : List Char) : Scan :=
  let t := skip s
  let space : Option (List Char × List Char) :=
    match t with
    | '*' :: r => some ([], r)
    | '|' :: _ => some ([], t)
    | _ => name? t
  match space.bind fun (n, r) => (afterChar? '|' r).bind fun u =>
      (attributeFrom u).map fun p => (n, p) with
  | some (n, p, u) => do
    let _ ← unescape false n
    return some (.simple (← p), u)
  | none =>
    match attributeFrom t with
    | some (p, u) => do return some (.simple (← p), u)
    | none => .ok none

def combinatorOf : Char → Option Token
  | ',' => some .comma
  | '>' => some (.combinator .child)
  | '+' => some (.combinator .next)
  | '~' => some (.combinator .sibling)
  | _ => none

/-- What is between two compounds: a sign, or a blank that no sign follows. Blanks and comments may
come before it and after it. -/
def combinatorToken (s : List Char) : Option (Token × List Char) :=
  match h : afterGap? s with
  | none =>
    match s with
    | [] => none
    | c :: r => (combinatorOf c).map fun t => (t, skip r)
  | some r =>
    have := length_of_afterGap? h
    if (afterBlank? s).isSome && ((r.head?).bind combinatorOf).isNone then
      some (.combinator .descendant, skip r)
    else combinatorToken r
termination_by s.length

def Token.scan (s : List Char) : Scan :=
  match afterClose? s with
  | some r => .ok (some (.close, r))
  | none =>
    match s with
    | ':' :: ':' :: r => if (name? r).isSome then .error .unsupported else .ok none
    | ':' :: r =>
      match name? r with
      | some (n, t) => pseudoToken n t
      | none => .ok none
    | '&' :: r => .ok (some (.simple .scope, r))
    | '@' :: c :: r =>
      if (c = 'p' ∨ c = 'P') ∧ (name? r).isSome then .error .unsupported else .ok none
    | '#' :: r => simpleOf .id r
    | '.' :: r => simpleOf .cls r
    | '[' :: r => attributeToken r
    | _ => .ok ((namedToken s).or (combinatorToken s))

def blankTail : List Char → Nat
  | [] => 0
  | c :: r => if (skip (c :: r)).isEmpty then r.length + 1 else blankTail r

def Token.scanAll (tail : Nat) (s : List Char) : List (Except Fault Token) :=
  if s.length ≤ tail then []
  else
    match Token.scan s with
    | .error f => [.error f]
    | .ok none => [.error .malformed]
    | .ok (some (t, r)) =>
      if r.length < s.length then .ok t :: Token.scanAll tail r else [.error .malformed]
termination_by s.length

def Token.ofText (s : List Char) : List (Except Fault Token) :=
  Token.scanAll (blankTail s) (skip s)

end CrateDocs.Selector
