import CrateDocs.Cli.Session

namespace CrateDocs.Cli

structure Screen where
  code : Nat
  output : String
  errors : String
  deriving DecidableEq

namespace Screen

def ofStop (standards : Standards) (columns : Option String) : Stop → Screen
  | .help => ⟨0, help columns standards.theme standards.width, ""⟩
  | .fault f => ⟨2, "", complaint columns f⟩

def lostEvent : Event := ⟨.debug, .session, "Lookup failed"⟩

/-- The screen of a session, after the prompts that were shown in it. A fault of the program has
none. -/
def ofRun (help : Option String) (verbosity : Nat) (prompts : String) (x : Traced Error String) :
    Except Error Screen :=
  match x.result with
  | .ok output => .ok ⟨0, prompts ++ output, log verbosity x.events⟩
  | .error e =>
    if e.isReported then
      .ok ⟨1, prompts, log verbosity (x.events ++ [lostEvent]) ++ failureLine help e⟩
    else .error e

end Screen

end CrateDocs.Cli
