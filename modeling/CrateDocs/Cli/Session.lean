import CrateDocs.Cli.Options
import CrateDocs.Cli.Usage
import CrateDocs.Decimal.Numeral
import CrateDocs.Index.Hit
import CrateDocs.Page.Examples
import CrateDocs.Settings.Read
import CrateDocs.Source.Basic
import CrateDocs.Text.Blank

/-!
A session: the documentation of a keyword is found, loaded and shown. What is not said in the
arguments is taken from the settings, and then from the standard values.

Letting a person choose one of several hits by its number. An answer that is no number of a hit
chooses none.
-/

namespace CrateDocs.Cli

def padLeft (width : Nat) (s : String) : String :=
  String.ofList (List.replicate (width - s.length) ' ') ++ s

def numberWidth (count : Nat) : Nat := (toString ((count : Int) - 1)).length

def choiceLine (width : Nat) (h : Hit) (i : Nat) : String :=
  "[ " ++ padLeft width (toString i) ++ " ] " ++ h.summary ++ "\n"

def choicePrompt (keyword : String) (hits : List Hit) : String :=
  "Found multiple matches for " ++ keyword ++ " - select one of:\n\n" ++
    String.join (hits.zipIdx.map fun x => choiceLine (numberWidth hits.length) x.1 x.2) ++ "\n> "

def choiceOf (answer : String) : List Char := Text.trim (answer.toList.takeWhile (· ≠ '\n'))

/-- The hit that an answer chooses. A run of digit signs that are not all decimal digits, or that is
too long, is no answer at all. -/
def choose (hits : List Hit) (answer : String) : Option (Option Hit) :=
  let s := choiceOf answer
  if s.isEmpty || !s.all Text.isDigitSign then some none
  else if Decimal.numeralLimit < s.length then none
  else (Text.numeral? s).map fun i => hits[i]?

structure Request where
  options : Options
  settings : Path
  standards : Standards
  columns : Option String
  asksPerson : Bool
  showsPerson : Bool

inductive Error where
  | settings (e : Settings.Error)
  | source (e : Source.Error)
  | viewer (e : Viewer.Error)
  | notFound (name : String) (suggestions : List String)
  | ambiguous (keyword : String) (hits : List Hit)
  | noNumber
  | noExamples (name : String)
  | markup (fault : Markup.Fault)

namespace Error

/-- Whether an error ends the session with a message; any other one is a fault of the program. -/
def isReported : Error → Bool
  | settings e =>
    match e.problem with
    | .malformed .tooDeep => false
    | _ => true
  | source e =>
    match e with
    | .markup _ _ => false
    | .unreadable _ f => f.isOfSystem
    | .page (.selector _) => false
    | .page .tooDeep => false
    | .index .tooDeep => false
    | .index .numeralTooLong => false
    | _ => true
  | noNumber => false
  | markup _ => false
  | _ => true

def message (help : Option String) : Error → String
  | settings e => e.message help
  | source e => e.message
  | viewer e => e.message
  | notFound n ss =>
    "Could not find documentation for " ++ n ++
      (if ss.isEmpty then "" else " (did you mean: " ++ ", ".intercalate ss ++ "?)")
  | ambiguous k hs =>
    "Found multiple matches for " ++ k ++ ":\n" ++
      "\n".intercalate (hs.map fun h => "  " ++ h.summary)
  | noNumber => "The answer is not a decimal number"
  | noExamples n => "Could not find examples for " ++ n
  | markup f => "The description cannot be read: " ++ f.message

end Error

def ofSource (p : Plan Source.Error α) : Plan Error α := p.mapError .source

def readSettings (p : Path) : Plan Error Settings := do
  if ← ofSource (Source.isFile p) then
    let content ← ofSource (Source.readFile p)
    .ofExcept ((Settings.ofBytes p content).mapError .settings)
  else return .standard

def findDoc (s : Sources) (n : Name) (hint : Option Kind) : Plan Error (Option Doc) := do
  match ← ofSource (s.find n hint) with
  | none => return none
  | some r => return some (← ofSource r.load)

def selectHit (asksPerson : Bool) (keyword : String) (hits : List Hit) :
    Plan Error (Option Hit) := do
  if !asksPerson then .fail (.ambiguous keyword hits)
  else
    let answer ← .question (.person (choicePrompt keyword hits))
    match choose hits answer with
    | some h => return h
    | none => .fail .noNumber

def searchDoc (r : Request) (s : Sources) : Plan Error (Option Doc) := do
  let keyword := r.options.keyword
  let (hits, s) ← ofSource (s.search keyword)
  let hit ← match hits with
    | [] => do
      let (names, _) ← ofSource (s.suggest r.standards keyword none)
      .fail (.notFound keyword names)
    | [h] => pure (some h)
    | _ => selectHit r.asksPerson keyword hits
  match hit with
  | none => return none
  | some h =>
    match ← findDoc s h.fullName h.kind with
    | some d => return some d
    | none => .fail (.notFound h.fullName.text [])

def viewerOptions (r : Request) (x : Settings) : Viewer.Options :=
  let width := match r.options.width with
    | some w => some w
    | none => x.width
  let theme := match r.options.theme with
    | some t => some t
    | none => x.theme
  ⟨lineWidth r.standards.width r.columns width, theme,
    !(r.options.noHighlighting || x.noHighlighting)⟩

def viewerName (r : Request) (x : Settings) : String :=
  (([r.options.viewer, x.viewer, r.standards.viewer].filterMap id).find? fun s => !s.isEmpty).getD
    (Viewer.defaultName r.showsPerson)

def view (r : Request) (x : Settings) (d : Doc) : Plan Error String := do
  let v ← .ofExcept ((Viewer.named r.standards.theme (viewerName r x) (viewerOptions r x)).mapError
    .viewer)
  .notes v.events
  if r.options.examples then
    match d.examples with
    | .error f => .fail (.markup f)
    | .ok [] => .fail (.noExamples d.name.text)
    | .ok es => return v.showExamples d es
  else return v.showDoc d

def session (r : Request) : Plan Error String := do
  let x ← readSettings r.settings
  let s ← ofSource (Sources.load r.standards ((x.sources ++ r.options.sources).map Path.ofString)
    !(r.options.noDefaultSources || x.noDefaultSources))
  let doc ← match ← findDoc s ⟨r.options.keyword⟩ none with
    | some d => pure (some d)
    | none =>
      if r.options.noSearch || x.noSearch then .fail (.notFound r.options.keyword [])
      else searchDoc r s
  match doc with
  | none => return ""
  | some d => view r x d

def levelOf (verbosity : Nat) : Level :=
  if 2 ≤ verbosity then .debug else if verbosity = 1 then .info else .warning

def isTold (verbosity : Nat) (e : Event) : Bool :=
  decide ((levelOf verbosity).rank ≤ e.level.rank)

def log (verbosity : Nat) (es : List Event) : String :=
  textOfLines ((es.filter (isTold verbosity)).map Event.line)

def failureLine (help : Option String) (e : Error) : String :=
  "Error: " ++ e.message help ++ "\n"

end CrateDocs.Cli
