import CrateDocs.Cli.Screen

/-!
The program: a call is read, and the questions of its session are put to the file system, the
environment and the terminal. No compiler is run, so the toolchain is looked for in its standard
place.
-/

namespace CrateDocs.Main

open Cli

def faultOf : IO.Error → ReadFault
  | .invalidArgument .. => .tooLong
  | .inappropriateType .. => .notFolder
  | _ => .missing

def readPath (p : Path) : IO (Except ReadFault (List UInt8)) := do
  match p.refused? with
  | some f => return .error f
  | none =>
    let place := (← IO.currentDir) / p.toString
    if ← place.isDir then return .error .folder
    try
      return .ok (← IO.FS.readBinFile place).toList
    catch e => return .error (faultOf e)

def holds (is : IO.FS.FileType → Bool) (p : Path) : IO (Except ReadFault Bool) := do
  if p.refused?.isSome then return .ok false
  let place := (← IO.currentDir) / p.toString
  try
    return .ok (is (← place.metadata).type)
  catch e =>
    match faultOf e with
    | .tooLong => return .error .tooLong
    | _ => return .ok false

def entryNames (p : Path) : IO (Except ReadFault (List String)) := do
  match ← holds (· == .dir) p with
  | .ok true =>
    let found ← ((← IO.currentDir) / p.toString).readDir
    return .ok (found.toList.map fun e => e.fileName)
  | .ok false => return .ok []
  | .error f => return .error f

def askPerson (prompt : String) : IO String := do
  let output ← IO.getStdout
  output.putStr prompt
  output.flush
  (← IO.getStdin).getLine

def answer : (q : Question) → IO q.Answer
  | .isFile p => holds (· == .file) p
  | .isFolder p => holds (· == .dir) p
  | .read p => readPath p
  | .entries p => entryNames p
  | .here => do return Path.ofString (← IO.currentDir).toString
  | .compiler => return .missing
  | .person prompt => askPerson prompt

def perform (verbosity : Nat) : Plan ε α → IO (Except ε α)
  | .done a => return .ok a
  | .fail e => return .error e
  | .note e next => do
    if isTold verbosity e then IO.eprintln e.line
    perform verbosity next
  | .ask q next => do perform verbosity (next (← answer q))

def environment : IO Environment := do
  let found ← Environment.variableNames.mapM fun n => do
    return (← IO.getEnv n).map fun v => (n, v)
  return found.filterMap id

def finish (s : Screen) : IO UInt32 := do
  IO.eprint s.errors
  let output ← IO.getStdout
  output.putStr s.output
  output.flush
  return s.code.toUInt32

def start (env : Environment) (standards : Standards) (settings : Path) (options : Options) :
    IO UInt32 := do
  let asks ← (← IO.getStdin).isTty
  let shows ← (← IO.getStdout).isTty
  let r : Request := ⟨options, settings, standards, env.get? "COLUMNS", asks, shows⟩
  match ← perform options.verbosity (session r) with
  | .ok output => finish ⟨0, output, ""⟩
  | .error e => finish ⟨1, "", failureLine none e⟩

def run (arguments : List String) : IO UInt32 := do
  let env ← environment
  match Standards.ofEnvironment? env, env.settingsPath? with
  | some (standards, warnings), some settings =>
    warnings.forM fun w => IO.eprintln w
    match Options.ofArguments arguments with
    | .ok options => start env standards settings options
    | .error stop => finish (.ofStop standards (env.get? "COLUMNS") stop)
  | _, _ =>
    IO.eprintln "Error: The environment cannot be used"
    return 1

end CrateDocs.Main

def main (arguments : List String) : IO UInt32 := CrateDocs.Main.run arguments
