import CrateDocs.Path
import CrateDocs.Suggest.Rank
import CrateDocs.Text.Numeral

/-!
What the environment of the program says: where the settings of the user are, and the standard
values of what is not asked for.
-/

namespace CrateDocs

abbrev Environment := List (String × String)

namespace Environment

def variableNames : List String :=
  ["HOME", "COLUMNS", "XDG_CONFIG_HOME", "RUSTDOC_MAN_CONFIG", "RUSTDOC_MAN_LINE_WIDTH",
    "RUSTDOC_MAN_THEME", "RUSTDOC_MAN_VIEWER", "RUSTDOC_MAN_SYSROOT_TIMEOUT",
    "RUSTDOC_MAN_FALLBACK_SYSROOT", "RUSTDOC_MAN_FUZZY_TOKEN_SET_WEIGHT",
    "RUSTDOC_MAN_FUZZY_TOKEN_SORT_WEIGHT", "RUSTDOC_MAN_FUZZY_PARTIAL_WEIGHT",
    "RUSTDOC_MAN_FUZZY_PATH_BONUS", "RUSTDOC_MAN_FUZZY_PARTIAL_BONUS",
    "RUSTDOC_MAN_SUGGESTION_LIMIT"]

def get? (env : Environment) (name : String) : Option String :=
  (env.find? fun v => v.1 == name).map Prod.snd

def filled? (env : Environment) (name : String) : Option String :=
  (env.get? name).filter fun s => !s.isEmpty

def home? (env : Environment) : Option Path :=
  let s := (((env.get? "HOME").getD "").toList.reverse.dropWhile (· == '/')).reverse
  if s.head? = some '~' then none
  else some (Path.ofString (if s.isEmpty then "/" else String.ofList s))

def settingsPath? (env : Environment) : Option Path :=
  match env.filled? "RUSTDOC_MAN_CONFIG" with
  | some p => some (Path.ofString p)
  | none =>
    let base : Option Path := match env.filled? "XDG_CONFIG_HOME" with
      | some p => some (Path.ofString p)
      | none => env.home?.map (Path.child · ".config")
    base.map fun p => (p.child "rustdoc-man").child "config.toml"

end Environment

/-- Standard values. The width is that of a wide terminal, and the timeout is in seconds. -/
structure Standards where
  width : Int
  theme : String
  viewer : Option String
  timeout : Float
  sysroot : Path
  weights : Suggest.Weights
  suggestions : Int

namespace Standards

def widthWarning (n : Int) : String :=
  "Line width " ++ toString n ++ " out of range (20-1000), using 100"

def isWidth (n : Int) : Bool := decide (20 ≤ n) && decide (n ≤ 1000)

def number? (env : Environment) (name : String) (otherwise : Float) : Option Float :=
  match env.get? name with
  | some s => Text.Numeral.float? s.toList
  | none => some otherwise

def integer? (env : Environment) (name : String) (otherwise : Int) : Option Int :=
  match env.get? name with
  | some s => Text.Numeral.integer? s.toList
  | none => some otherwise

def weights? (env : Environment) : Option Suggest.Weights := do
  return ⟨← number? env "RUSTDOC_MAN_FUZZY_TOKEN_SET_WEIGHT" 0.4,
    ← number? env "RUSTDOC_MAN_FUZZY_TOKEN_SORT_WEIGHT" 0.3,
    ← number? env "RUSTDOC_MAN_FUZZY_PARTIAL_WEIGHT" 0.3,
    ← number? env "RUSTDOC_MAN_FUZZY_PATH_BONUS" 0.15,
    ← number? env "RUSTDOC_MAN_FUZZY_PARTIAL_BONUS" 0.08⟩

def ofEnvironment? (env : Environment) : Option (Standards × List String) := do
  let width ← integer? env "RUSTDOC_MAN_LINE_WIDTH" 100
  let timeout ← number? env "RUSTDOC_MAN_SYSROOT_TIMEOUT" 5
  let weights ← weights? env
  let suggestions ← integer? env "RUSTDOC_MAN_SUGGESTION_LIMIT" 3
  return (⟨if isWidth width then width else 100, (env.get? "RUSTDOC_MAN_THEME").getD "monokai",
    env.get? "RUSTDOC_MAN_VIEWER", timeout,
    Path.ofString ((env.get? "RUSTDOC_MAN_FALLBACK_SYSROOT").getD "/usr"), weights, suggestions⟩,
    if isWidth width then [] else [widthWarning width])

end Standards

end CrateDocs
