import CrateDocs.Cli.Flag
import CrateDocs.Text.Fill
import CrateDocs.View.Viewer

/-!
What the program says about its own use: the ways to call it, and a help text in two columns. Both
are set to the width of the terminal.
-/

namespace CrateDocs.Cli

def programName : String := "rustdoc-man"

def textOfLines (l : List String) : String := String.join (l.map fun s => s ++ "\n")

def keywordName : String := "keyword"

namespace Flag

def all : List Flag := (spellings.map Prod.snd).eraseDups

def valueName? : Flag → Option String
  | source => some "SOURCE"
  | viewer => some ("\x7b" ++ ",".intercalate Viewer.names ++ "\x7d")
  | theme => some "THEME"
  | width => some "WIDTH"
  | _ => none

def withValue (f : Flag) (spelling : String) : String :=
  match f.valueName? with
  | some v => spelling ++ " " ++ v
  | none => spelling

def brief (f : Flag) : String :=
  "[" ++ String.join ((f.spelled.take 1).map f.withValue) ++ "]"

def heading (f : Flag) : String := ", ".intercalate (f.spelled.map f.withValue)

def purpose (standardTheme : String) (standardWidth : Int) : Flag → String
  | help => "show this help message and exit"
  | source => "Directory with rustdoc output for one or more crates (repeatable)"
  | viewer => "The viewer for the documentation (default: rich on a terminal, else plain)"
  | noDefaultSources => "Do not search the toolchain documentation and ./target/doc"
  | noSearch => "Do not read the search indexes if there is no exact match"
  | examples => "Show only the examples of the item"
  | noHighlighting => "Disable syntax highlighting in the rich viewer"
  | theme => "Pygments style for syntax highlighting (default: " ++ standardTheme ++ ")"
  | width =>
    "Line width (default: terminal width, at most " ++ toString standardWidth ++ ")"
  | verbose => "Log progress to stderr (-v for info, -vv for debug)"

end Flag

def helpWidth (columns : Option String) : Int :=
  let known := (columns.bind fun c => Text.Numeral.integer? c.toList).filter fun n => 0 < n
  known.getD 80 - 2

/-- Sets parts in lines. A part that does not fit starts a line, in which `indent` columns are
taken; `line` has parts already, backwards, up to the column `used`. -/
def partLines (width indent used : Int) (line : List String) : List String → List (List String)
  | [] => if line.isEmpty then [] else [line.reverse]
  | p :: ps =>
    let size : Int := p.length + 1
    if width < used + size ∧ !line.isEmpty then
      line.reverse :: partLines width indent (indent - 1 + size) [p] ps
    else partLines width indent (used + size) (p :: line) ps

def indented (indent : Nat) (s : String) : String := "".pushn ' ' indent ++ s

def usageMark : String := "usage: "

/-- The ways to call the program, in a single line if it is wide enough. Otherwise the options come
before the keyword, next to the name of the program or, where that would take too much of the
line, below it. -/
def usageLines (width : Int) : List String :=
  let options := Flag.all.map Flag.brief
  let whole := usageMark ++ " ".intercalate (programName :: options ++ [keywordName])
  let set (indent : Nat) (parts : List String) :=
    partLines width indent (indent - 1) [] parts
  let name := usageMark ++ programName
  if whole.length ≤ width then [whole]
  else if (4 * name.length : Int) ≤ 3 * width then
    let indent := name.length + 1
    let first := partLines width indent (usageMark.length - 1) [] (programName :: options)
    match (first ++ set indent [keywordName]).map fun ps => " ".intercalate ps with
    | [] => []
    | l :: ls => (usageMark ++ l) :: ls.map (indented indent)
  else
    let indent := usageMark.length
    let mixed := set indent (options ++ [keywordName])
    let lines := if mixed.length ≤ 1 then mixed else set indent options ++ set indent [keywordName]
    name :: lines.map fun ps => indented indent (" ".intercalate ps)

def purposeColumn (width : Int) : Nat :=
  let longest := ((keywordName :: Flag.all.map Flag.heading).map String.length).foldl max 0
  min (longest + 4) (min 24 (max (width - 20) 4).toNat)

def leastWidth : Int := 11

def entryLines (width : Int) (heading purpose : String) : List String :=
  let column := purposeColumn width
  let lines := Text.Fill.lines (max (width - column) leastWidth).toNat purpose
  let left := indented 2 heading
  if left.length + 2 ≤ column then
    match lines with
    | [] => [left]
    | l :: ls => (left ++ indented (column - left.length) l) :: ls.map (indented column)
  else left :: lines.map (indented column)

def help (columns : Option String) (theme : String) (most : Int) : String :=
  let width := helpWidth columns
  textOfLines (usageLines width ++ [""] ++
    Text.Fill.lines (max width leastWidth).toNat
      "Command-line viewer for documentation generated by rustdoc" ++
    ["", "positional arguments:"] ++
    entryLines width keywordName
      "The keyword to open the documentation for, e. g. rand_core::RngCore" ++
    ["", "options:"] ++
    Flag.all.flatMap fun f => entryLines width f.heading (f.purpose theme most))

def complaint (columns : Option String) (f : Fault) : String :=
  textOfLines (usageLines (helpWidth columns)) ++ programName ++ ": error: " ++ f.message ++ "\n"

end CrateDocs.Cli
