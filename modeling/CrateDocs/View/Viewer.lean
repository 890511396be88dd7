import CrateDocs.Log
import CrateDocs.Text.Case
import CrateDocs.Text.Numeral
import CrateDocs.View.Render

namespace CrateDocs

def themes : List String := ["abap", "algol", "algol_nu", "arduino", "autumn", "bw", "borland",
  "coffee", "colorful", "default", "dracula", "emacs", "friendly_grayscale", "friendly", "fruity",
  "github-dark", "gruvbox-dark", "gruvbox-light", "igor", "inkpot", "lightbulb", "lilypond",
  "lovelace", "manni", "material", "monokai", "murphy", "native", "night-owl", "nord-darker",
  "nord", "one-dark", "paraiso-dark", "paraiso-light", "pastie", "perldoc", "rainbow_dash", "rrt",
  "sas", "solarized-dark", "solarized-light", "staroffice", "stata-dark", "stata-light", "tango",
  "trac", "vim", "vs", "xcode", "zenburn"]

/-- The width to write to: the one that is asked for, or that of the terminal, but no more than
`most`. A terminal width that is no positive number is not known. -/
def lineWidth (most : Int) (columns : Option String) (asked : Option Int) : Int :=
  match asked with
  | some w => w
  | none =>
    match columns.bind fun c => Text.Numeral.integer? c.toList with
    | some n => if 0 < n then min n most else most
    | none => most

structure Viewer where
  rich : Bool
  width : Int
  highlighted : Bool
  theme : String
  deriving DecidableEq

namespace Viewer

inductive Error where
  | unsupported (name : String)
  | noTheme (name : String)
  deriving DecidableEq

def Error.message : Error → String
  | unsupported n => "The viewer " ++ n ++ " is not supported"
  | noTheme n => "Could not find theme " ++ n

def plainName : String := "plain"

def richName : String := "rich"

def names : List String := [plainName, richName]

def name (v : Viewer) : String := if v.rich then richName else plainName

structure Options where
  width : Int
  theme : Option String
  highlighted : Bool

def themeOf (standard : String) (o : Options) : String :=
  (o.theme.filter fun t => !t.isEmpty).getD standard

def ofOptions (standard : String) (o : Options) : Except Error Viewer :=
  let theme := themeOf standard o
  if o.highlighted && !themes.contains theme then .error (.noTheme theme)
  else .ok ⟨true, o.width, o.highlighted, theme⟩

def named (standard : String) (name : String) (o : Options) : Except Error Viewer :=
  let n := String.ofList (Text.lower name.toList)
  if n = plainName then .ok ⟨false, o.width, false, ""⟩
  else if n = richName then ofOptions standard o
  else .error (.unsupported name)

def defaultName (terminal : Bool) : String := if terminal then richName else plainName

def style (v : Viewer) : View.Style := ⟨v.rich, v.rich && v.highlighted⟩

def events (v : Viewer) : List Event :=
  if v.rich && v.highlighted then
    [⟨.debug, .highlighting, "Highlighting code with theme " ++ v.theme⟩]
  else []

def showDoc (v : Viewer) (d : Doc) : String := View.write v.style v.width (View.docBlocks v.width d)

def showExamples (v : Viewer) (d : Doc) (es : List Example) : String :=
  View.write v.style v.width (View.examplesBlocks v.width d es)

end Viewer

end CrateDocs
