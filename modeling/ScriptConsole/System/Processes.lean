import ScriptConsole.System.Files
import ScriptConsole.Text.Number

/-! Processes: finding one by its name in a directory of process files, and whether one runs. -/
namespace ScriptConsole.Processes

def limit : Nat := 4294967295

def dropNewlines (t : Text) : Text := (t.reverse.dropWhile (· == '\n')).reverse

def named? (files : Files) (root : Path) (name : Text) (entry : Text) : Option Nat := do
  let pid ← Text.unsigned? limit entry
  let file ← (files.readText (root ++ [entry, "comm".toList])).toOption
  if dropNewlines file = name then some pid else none

def least : List Nat → Option Nat
  | [] => none
  | n :: rest => some (rest.foldl min n)

/- The process of a name; of several, the one with the lowest number. -/
def find? (files : Files) (root : Path) (name : Text) : Option Nat :=
  match files.list root with
  | .ok entries => least (entries.filterMap fun (entry, _) => named? files root name entry)
  | .error _ => none

/-- Whether a process runs, given the numbers of those that do; 0 stands for the asking process
itself, and a number of more than 31 bits for none. -/
def isRunning (running : List Nat) (pid : Nat) : Bool :=
  pid ≤ 2147483647 && (pid = 0 || running.contains pid)

end ScriptConsole.Processes
