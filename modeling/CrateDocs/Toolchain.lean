import CrateDocs.Decimal.Shortest
import CrateDocs.Log
import CrateDocs.Path
import CrateDocs.Text.Blank
import CrateDocs.Text.Quoted

/-!
The documentation that comes with a toolchain, which is kept under the root of the toolchain. The
compiler says where that is; without a compiler, or when it fails, there is a standard place.
-/

namespace CrateDocs.Toolchain

inductive Report where
  | missing
  | timedOut
  | exited (code : Int) (output errors : String)
  deriving DecidableEq

def command : List String := ["rustc", "--print", "sysroot"]

def compiler : String := "rustc"

def shownCommand : String :=
  "[" ++ ", ".intercalate (command.map Text.Quoted.quote) ++ "]"

def trimmed (s : String) : String := String.ofList (Text.trim s.toList)

def Report.root? : Report → Option Path
  | exited code output _ =>
    let s := trimmed output
    if code = 0 ∧ s ≠ "" then some (Path.ofString s) else none
  | _ => none

def root (standard : Path) (r : Report) : Path := r.root?.getD standard

def event (timeout : Float) (r : Report) : Event :=
  match r with
  | .missing => ⟨.debug, .toolchain, "Cannot run rustc: [Errno 2] No such file or directory: " ++
      Text.Quoted.quote compiler⟩
  | .timedOut => ⟨.debug, .toolchain, "Cannot run rustc: Command '" ++ shownCommand ++
      "' timed out after " ++ Decimal.shown timeout ++ " seconds"⟩
  | .exited _ output errors =>
    if r.root?.isSome then ⟨.info, .toolchain, "Found Rust sysroot: " ++ trimmed output⟩
    else ⟨.debug, .toolchain, "rustc --print sysroot failed: " ++ trimmed errors⟩

def folders (root : Path) : List Path :=
  [root.child "share/doc/rust/html", root.child "share/doc/rust-doc/html"]

end CrateDocs.Toolchain
