import ScriptConsole.Text.Offset

/-! What a terminal reports: keys with their modifiers, pasted text, and events of no effect. -/
namespace ScriptConsole

inductive KeyCode
  | char (c : Char)
  | enter | up | down | left | right | home | lineEnd | backspace | delete | tab | backTab | escape
  | insert | pageUp | pageDown
  | function (n : Nat)
  deriving DecidableEq, Repr

structure Key where
  code : KeyCode
  control : Bool := false
  alt : Bool := false
  shift : Bool := false
  deriving DecidableEq, Repr

inductive KeyPhase
  | press | repeat | release
  deriving DecidableEq, Repr

inductive Event
  | key (k : Key) (phase : KeyPhase)
  | paste (t : Text)
  | resize (width height : Nat)
  | focus (gained : Bool)
  deriving DecidableEq, Repr

end ScriptConsole
