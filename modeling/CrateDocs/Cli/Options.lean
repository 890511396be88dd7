import CrateDocs.Cli.Flag
import CrateDocs.Text.Digit
import CrateDocs.Text.Numeral
import CrateDocs.Text.Split
import CrateDocs.View.Viewer

/-!
Reading the arguments of a call. An option may be cut short as long as it is clear which one is
meant, options of one letter may be joined, and what comes after two hyphens alone is no option.
-/

namespace CrateDocs.Cli

structure Options where
  keyword : String
  sources : List String
  viewer : Option String
  noDefaultSources : Bool
  noSearch : Bool
  examples : Bool
  noHighlighting : Bool
  theme : Option String
  width : Option Int
  verbosity : Nat
  deriving DecidableEq

inductive Word where
  | text (s : String)
  | mark
  | option (f : Flag) (spelling : String) (joined : Option String)
  | unknown (s : String)

def Word.written : Word → String
  | .text s => s
  | .mark => "--"
  | .option _ s _ => s
  | .unknown s => s

def cutValue (s : String) : String × Option String :=
  match Text.cutFirst ['='] s.toList with
  | some (a, b) => (String.ofList a, some (String.ofList b))
  | none => (s, none)

/-- The options that an argument may mean. Long ones may be cut short; a short one may have more
text joined to it. -/
def meanings (s : String) : List (String × Flag × Option String) :=
  if s.startsWith "--" then
    let (name, value) := cutValue s
    (Flag.spellings.filter fun p => name.toList.isPrefixOf p.1.toList).map fun p =>
      (p.1, p.2, value)
  else
    let name := String.ofList (s.toList.take 2)
    (Flag.spellings.filter fun p => p.1 == name).map fun p =>
      (p.1, p.2, some (String.ofList (s.toList.drop 2)))

def isDecimalRun (s : List Char) : Bool := !s.isEmpty && s.all Text.isDecimal

def isNegativeNumber (s : String) : Bool :=
  match s.toList with
  | '-' :: r =>
    let r := if r.getLast? = some '\n' then r.dropLast else r
    isDecimalRun r ||
      match Text.cutFirst ['.'] r with
      | some (a, b) => a.all Text.isDecimal && isDecimalRun b
      | none => false
  | _ => false

def classify (s : String) : Except Fault Word :=
  if !s.startsWith "-" then .ok (.text s)
  else
    match Flag.ofSpelling? s with
    | some f => .ok (.option f s none)
    | none =>
      if s = "-" then .ok (.text s)
      else
        let (name, value) := cutValue s
        match value, Flag.ofSpelling? name with
        | some v, some f => .ok (.option f name (some v))
        | _, _ =>
          match meanings s with
          | [(name, f, v)] => .ok (.option f name v)
          | [] =>
            if isNegativeNumber s || s.toList.contains ' ' then .ok (.text s) else .ok (.unknown s)
          | ms => .error (.ambiguous s (ms.map Prod.fst))

def words : List String → Except Fault (List Word)
  | [] => .ok []
  | s :: r =>
    if s = "--" then .ok (.mark :: r.map .text)
    else do
      let w ← classify s
      let ws ← words r
      .ok (w :: ws)

inductive Stop where
  | help
  | fault (f : Fault)
  deriving DecidableEq

structure State where
  options : Options
  keyword : Option String
  extras : List String

namespace State

def start : State := ⟨⟨"", [], none, false, false, false, false, none, none, 0⟩, none, []⟩

def set (s : State) (change : Options → Options) : Except Stop State :=
  .ok { s with options := change s.options }

/-- Takes an option with its value. An option without a value takes the empty text. -/
def take (s : State) (f : Flag) (value : String) : Except Stop State :=
  match f with
  | .help => .error .help
  | .source => s.set fun o => { o with sources := o.sources ++ [value] }
  | .viewer =>
    if Viewer.names.contains value then s.set fun o => { o with viewer := some value }
    else .error (.fault (.noChoice f value Viewer.names))
  | .noDefaultSources => s.set fun o => { o with noDefaultSources := true }
  | .noSearch => s.set fun o => { o with noSearch := true }
  | .examples => s.set fun o => { o with examples := true }
  | .noHighlighting => s.set fun o => { o with noHighlighting := true }
  | .theme => s.set fun o => { o with theme := some value }
  | .width =>
    match Text.Numeral.integer? value.toList with
    | some n => s.set fun o => { o with width := some n }
    | none => .error (.fault (.notInteger f value))
  | .verbose => s.set fun o => { o with verbosity := o.verbosity + 1 }

def takeAll (s : State) (l : List (Flag × String)) : Except Stop State :=
  l.foldlM (fun s x => s.take x.1 x.2) s

end State

def following (f : Flag) : List Word → Except Fault (String × List Word)
  | .text s :: r => .ok (s, r)
  | _ => .error (.noValue f)

def cluster (f : Flag) (joined : List Char) (ws : List Word) :
    Except Fault (List (Flag × String) × List Word) :=
  if f.takesValue then
    match joined with
    | [] => do
      let (v, r) ← following f ws
      .ok ([(f, v)], r)
    | s => .ok ([(f, String.ofList s)], ws)
  else
    match joined with
    | [] => .ok ([(f, "")], ws)
    | c :: r =>
      match Flag.ofSpelling? (String.ofList ['-', c]) with
      | some g => do
        let (l, ws) ← cluster g r ws
        .ok ((f, "") :: l, ws)
      | none => .error (.superfluous f (String.ofList joined))

def expand (f : Flag) (spelling : String) (joined : Option String) (ws : List Word) :
    Except Fault (List (Flag × String) × List Word) :=
  match joined with
  | none => cluster f [] ws
  | some v =>
    if f.takesValue then .ok ([(f, v)], ws)
    else if spelling.startsWith "--" || v.isEmpty then .error (.superfluous f v)
    else cluster f v.toList ws

def dropMark : List Word → List Word
  | .mark :: r => r
  | ws => ws

def State.takeText (s : State) (w : Word) (ws : List Word) : State × List Word :=
  match s.keyword, w, ws with
  | none, .text k, ws => ({ s with keyword := some k }, dropMark ws)
  | none, .mark, .text k :: ws => ({ s with keyword := some k }, dropMark ws)
  | _, w, ws => ({ s with extras := s.extras ++ [w.written] }, ws)

def readWords : Nat → State → List Word → Except Stop State
  | 0, s, _ => .ok s
  | _, s, [] => .ok s
  | fuel + 1, s, w :: ws =>
    match w with
    | .option f spelling joined =>
      match expand f spelling joined ws with
      | .error e => .error (.fault e)
      | .ok (l, ws) => do
        let s ← s.takeAll l
        readWords fuel s ws
    | .unknown a => readWords fuel { s with extras := s.extras ++ [a] } ws
    | w =>
      let (s, ws) := s.takeText w ws
      readWords fuel s ws

def State.finish (s : State) : Except Stop Options :=
  match s.keyword with
  | none => .error (.fault .noKeyword)
  | some k =>
    if s.extras.isEmpty then .ok { s.options with keyword := k }
    else .error (.fault (.unrecognized s.extras))

def Options.ofArguments (arguments : List String) : Except Stop Options :=
  match words arguments with
  | .error f => .error (.fault f)
  | .ok ws => do
    let s ← readWords (ws.length + 1) .start ws
    s.finish

end CrateDocs.Cli
