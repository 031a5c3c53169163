import ScriptConsole.Text.Class

/-! Commands to the console itself, written `?name`, and the switches that some of them flip. -/
namespace ScriptConsole

inductive Command
  | bypass | debug | destroy | gc | expand | pretty | exit
  | unknown (name : Text)
  deriving DecidableEq, Repr

namespace Command

def named : List (String × Command) :=
  [("bypass", bypass), ("debug", debug), ("destroy", destroy), ("gc", gc), ("expand", expand),
   ("pretty", pretty), ("exit", exit)]

def parse (line : Text) : Command :=
  let name := Text.trim ((Text.trim line).dropWhile (· == '?'))
  match named.find? fun (s, _) => s.toList == name with
  | some (_, command) => command
  | none => unknown name

end Command

structure Switches where
  bypass : Bool := false
  debug : Bool := false
  expand : Bool := false
  pretty : Bool := false
  deriving DecidableEq, Repr

/- Flips the switch that a command names; answers its name and new value. -/
def Switches.toggle? (s : Switches) : Command → Option (Switches × String × Bool)
  | .bypass => some ({ s with bypass := !s.bypass }, "bypass", !s.bypass)
  | .debug => some ({ s with debug := !s.debug }, "debug", !s.debug)
  | .expand => some ({ s with expand := !s.expand }, "expand", !s.expand)
  | .pretty => some ({ s with pretty := !s.pretty }, "pretty", !s.pretty)
  | .destroy | .gc | .exit | .unknown _ => none

end ScriptConsole
