import CrateDocs.Text.Quoted

namespace CrateDocs.Cli

inductive Flag where
  | help
  | source
  | viewer
  | noDefaultSources
  | noSearch
  | examples
  | noHighlighting
  | theme
  | width
  | verbose
  deriving DecidableEq

namespace Flag

def spellings : List (String × Flag) :=
  [("-h", help), ("--help", help), ("-s", source), ("--source", source), ("--viewer", viewer),
    ("--no-default-sources", noDefaultSources), ("--no-search", noSearch), ("-e", examples),
    ("--examples", examples), ("--no-syntax-highlight", noHighlighting), ("--theme", theme),
    ("--width", width), ("-v", verbose), ("--verbose", verbose)]

def ofSpelling? (s : String) : Option Flag :=
  (spellings.find? fun p => p.1 == s).map Prod.snd

def spelled (f : Flag) : List String := (spellings.filter fun p => p.2 == f).map Prod.fst

def shown (f : Flag) : String := "/".intercalate f.spelled

def takesValue : Flag → Bool
  | source => true
  | viewer => true
  | theme => true
  | width => true
  | _ => false

end Flag

inductive Fault where
  | ambiguous (argument : String) (spellings : List String)
  | noValue (f : Flag)
  | superfluous (f : Flag) (value : String)
  | notInteger (f : Flag) (value : String)
  | noChoice (f : Flag) (value : String) (choices : List String)
  | noKeyword
  | unrecognized (arguments : List String)
  deriving DecidableEq

def Fault.message : Fault → String
  | ambiguous a ss => "ambiguous option: " ++ a ++ " could match " ++ ", ".intercalate ss
  | noValue f => "argument " ++ f.shown ++ ": expected one argument"
  | superfluous f v =>
    "argument " ++ f.shown ++ ": ignored explicit argument " ++ Text.Quoted.quote v
  | notInteger f v => "argument " ++ f.shown ++ ": invalid int value: " ++ Text.Quoted.quote v
  | noChoice f v cs => "argument " ++ f.shown ++ ": invalid choice: " ++ Text.Quoted.quote v ++
      " (choose from " ++ ", ".intercalate (cs.map Text.Quoted.quote) ++ ")"
  | noKeyword => "the following arguments are required: keyword"
  | unrecognized as => "unrecognized arguments: " ++ " ".intercalate as

end CrateDocs.Cli
