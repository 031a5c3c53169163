import ScriptConsole.System.Processes

/-!
The log files, one for each process: where a file is made, which messages reach it, and which files
of processes that have ended are removed. -/
namespace ScriptConsole.Log

inductive Level
  | error | warn | info | debug | trace
  deriving DecidableEq, Repr

def Level.all : List Level := [error, warn, info, debug, trace]

/- Whether messages of a level are kept; traces are kept only when more is asked for. -/
def Level.isKept (verbosity : Nat) : Level → Bool
  | trace => 0 < verbosity
  | _ => true

def create (files : Files) (resolve : Text → Path) (preferred fallback : Text) :
    Option (Text × Files) :=
  [preferred, fallback].findSome? fun path =>
    match files.write (resolve path) [] with
    | .ok files => some (path, files)
    | .error _ => none

def fileName (pid : Text) : Text := "cyrepl-".toList ++ pid ++ ".log".toList

def owner? (name : Text) : Option Nat := do
  let rest ← Text.dropLead? name "cyrepl-".toList
  let reversed ← Text.dropLead? rest.reverse ".log".toList.reverse
  Text.unsigned? Processes.limit reversed.reverse

/-- Whether a file is a log that nobody writes any more: its process has ended, and it is more than
a day old. -/
def isStale (running : List Nat) (name : Text) : FileNode → Bool
  | .file _ ageDays =>
      match owner? name with
      | some pid => !Processes.isRunning running pid && 1 < ageDays
      | none => false
  | _ => false

def cleanUp (files : Files) (directory : Path) (running : List Nat) : Files :=
  match files.list directory with
  | .error _ => files
  | .ok entries =>
      (entries.filter fun (name, node) => isStale running name node).foldl
        (fun files (name, _) => files.erase (directory ++ [name])) files

end ScriptConsole.Log
