import ScriptConsole.System.IoError

/-! Programs that can be started: what becomes of each, its arguments being of no account. -/
namespace ScriptConsole.Programs

inductive Ending
  | exit (status : Nat)
  | failure (e : IoError)
  deriving DecidableEq, Repr

def known : List (String × Nat) :=
  [("true", 0), ("/bin/true", 0), ("/usr/bin/true", 0), ("false", 1), ("/bin/false", 1),
   ("/usr/bin/false", 1)]

def start (command : Text) : Ending :=
  match known.find? (·.1.toList = command) with
  | some (_, status) => .exit status
  | none =>
      if command = ['/'] || command = "/tmp".toList || command = "/etc/passwd".toList then
        .failure .permissionDenied
      else .failure .notFound

/- Why a program did not do its work; none if it did. -/
def Ending.complaint? : Ending → Option Text
  | exit 0 => none
  | exit status => some ("exit status: ".toList ++ Text.ofNat status)
  | failure e => some e.systemMessage.toList

end ScriptConsole.Programs
