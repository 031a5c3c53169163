import ScriptConsole.System.Processes
import ScriptConsole.Target.Address

/-!
Attaching to a running process: a socket is made, an injector is asked to load the agent, and the
agent connects back. The socket file is gone afterwards, whatever happened. -/
namespace ScriptConsole.Attach

inductive Failure
  | processNotFound (name : Text)
  | noLibrary
  | socket (path : Text) (e : IoError)
  | injector (command reason : Text)
  | accept (e : IoError)
  deriving DecidableEq, Repr

namespace Failure

def message : Failure → Text
  | processNotFound name => "unable to find process `".toList ++ name ++ ['\'']
  | noLibrary =>
      "no agent library configured (set inject.library in the config file)".toList
  | socket path e =>
      "failed to set up socket ".toList ++ path ++ ": ".toList ++ e.systemMessage.toList
  | injector command reason =>
      "injector `".toList ++ command ++ "` failed: ".toList ++ reason
  | accept e => "target never connected back: ".toList ++ e.systemMessage.toList

def chain (f : Failure) : Text :=
  match f with
  | socket _ e | accept e => f.message ++ ": ".toList ++ e.systemMessage.toList
  | _ => f.message

end Failure

structure Request where
  pid : Nat
  library : Text
  arguments : List Text
  socketMode : Nat
  deriving DecidableEq, Repr

def resolve (files : Files) (root : Path) (spec : Text) : Except Failure Nat :=
  match Text.unsigned? Processes.limit spec with
  | some pid => .ok pid
  | none =>
      match Processes.find? files root spec with
      | some pid => .ok pid
      | none => .error (.processNotFound spec)

def socketPath (directory pid : Text) : Text := Path.join directory (".s.cy.".toList ++ pid)

def bind (files : Files) (path : Text) (place : Path) : Except IoError Files := do
  let files ← match files.remove place with
    | .ok files => pure files
    | .error .notFound => pure files
    | .error e => throw e
  match Address.socketPathFault? path with
  | some e => throw e
  | none =>
      let _ ← files.openForWriting place
      return files.put place .socket

/- Attaches; answers the request that the injector saw, the outcome, and the files afterwards. -/
def run (files : Files) (path : Text) (place : Path) (pid : Nat) (library : Text)
    (inject : Request → Except Failure Unit) : Option Request × Except Failure Unit × Files :=
  match bind files path place with
  | .error e => (none, .error (.socket path e), files)
  | .ok bound =>
      let request : Request := ⟨pid, library, [path], 0o777⟩
      (some request, inject request, bound.erase place)

end ScriptConsole.Attach
