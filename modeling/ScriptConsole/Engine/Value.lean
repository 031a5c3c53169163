import ScriptConsole.Engine.Term

/-!
Values, the objects and scopes they live among, and actions on a machine that holds them. Objects and
scopes are known by their places in the machine. -/
namespace ScriptConsole.Engine

structure Symbol where
  id : Nat
  description : Option String
  deriving Repr, Inhabited

instance : BEq Symbol := ⟨fun a b => a.id == b.id⟩

inductive Value
  | undefined
  | null
  | boolean (b : Bool)
  | number (x : Float)
  | bigint (n : Int)
  | text (s : String)
  | symbol (s : Symbol)
  | object (ref : Nat)
  deriving Inhabited

inductive Key
  | name (s : String)
  | symbol (s : Symbol)
  | hidden (s : String)
  deriving BEq, Inhabited

inductive Slot
  | data (value : Value) (writable enumerable configurable : Bool)
  | accessor (getter setter : Value) (enumerable configurable : Bool)
  deriving Inhabited

namespace Slot

def enumerable : Slot → Bool
  | .data _ _ e _ => e
  | .accessor _ _ e _ => e

def configurable : Slot → Bool
  | .data _ _ _ c => c
  | .accessor _ _ _ c => c

end Slot

/- A function with the scope it was made in; `home` is where `super` starts from. -/
structure Closure where
  lambda : Lambda
  scope : Nat
  home : Option Nat
  fields : List (Key × Option Lambda)

structure Reaction where
  fulfilled : Value
  rejected : Value
  derived : Nat
  deriving Inhabited

inductive Fate
  | pending (reactions : List Reaction)
  | fulfilled (v : Value)
  | rejected (v : Value)
  deriving Inhabited

inductive Kind
  | plain
  | array (items : Array (Option Value))
  | closure (f : Closure)
  | native (index : Nat) (held : List Value) (constructs : Bool)
  | error
  | wrapped (v : Value)
  | promise (fate : Fate)
  | keyed (entries : Array (Option (Value × Value))) (pairs : Bool)
  | cursor (rest : List Value)
  | matcher (source flags : String)
  | date (time : Float)
  deriving Inhabited

structure Obj where
  proto : Option Nat
  kind : Kind
  slots : Array (Key × Slot)
  extensible : Bool
  frozen : Bool
  deriving Inhabited

structure Binding where
  name : String
  value : Option Value
  constant : Bool
  deriving Inhabited

structure Scope where
  bindings : List Binding
  parent : Option Nat
  deriving Inhabited

inductive Job
  | react (handler : Value) (argument : Value) (rejected : Bool) (derived : Nat)
  | adopt (promise : Nat) (thenable method : Value)
  | call (f : Value)
  deriving Inhabited

structure Machine where
  heap : Array Obj
  scopes : Array Scope
  jobs : Array Job
  nextSymbol : Nat
  -- Steps until a request to stop is looked for.
  patience : Nat
  cancelled : Bool
  yielded : List (Array Value)
  arguments : List String

inductive Abrupt
  | thrown (v : Value)
  | skipped
  -- Stopped from outside; a script cannot catch it.
  | interrupted
  | sated
  deriving Inhabited

abbrev Action := EStateM Abrupt Machine

inductive Flow
  | normal (v : Option Value)
  | leave (label : Option String) (v : Option Value)
  | next (label : Option String) (v : Option Value)
  | answer (v : Value)
  deriving Inhabited

structure Recur where
  evaluate : (scope : Nat) → Expression → Action Value
  execute : (scope : Nat) → (labels : List String) → Statement → Action Flow
  -- Puts a value where a pattern says; a pattern that declares fills new names.
  bind : (scope : Nat) → (declares : Bool) → Pattern → Value → Action Unit
  call : (f this : Value) → List Value → Action Value
  construct : (f : Value) → List Value → (target : Value) → Action Value

structure Use where
  this : Value
  arguments : List Value
  held : List Value
  target : Value

namespace Use

def argument (use : Use) (n : Nat) : Value := use.arguments.getD n .undefined

def heldAt (use : Use) (n : Nat) : Value := use.held.getD n .undefined

end Use

abbrev Native := Recur → Use → Action Value

def Native.nothing : Native := fun _ _ => pure .undefined

end ScriptConsole.Engine
