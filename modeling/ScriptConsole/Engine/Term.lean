/-!
Terms: what a script says, free of how it is written. Statements, expressions and the patterns that
take values apart. -/
namespace ScriptConsole.Engine

inductive Operator
  | add | subtract | multiply | divide | remainder | power
  | shiftLeft | shiftRight | shiftRightZero | bitAnd | bitOr | bitXor
  | less | lessEqual | greater | greaterEqual
  | equal | notEqual | same | notSame
  | within | instanceOf
  deriving DecidableEq, Repr

inductive Shortcut
  | conjunction | disjunction | coalesce
  deriving DecidableEq, Repr

inductive UnaryOperator
  | plus | minus | bitNot | not | typeOf | void
  deriving DecidableEq, Repr

/- How a function treats `this`, and what makes instances of it. -/
inductive Role
  | plain | arrow | method | constructor | derived
  deriving DecidableEq, Repr

inductive Style
  | plain | promising | yielding
  deriving DecidableEq, Repr

inductive MemberKind
  | method | getter | setter
  deriving DecidableEq, Repr

inductive Declaring
  | hoisted | changeable | constant
  deriving DecidableEq, Repr

mutual

inductive Expression
  | undefined
  | null
  | boolean (b : Bool)
  | number (x : Float)
  | bigint (n : Int)
  | text (s : String)
  | matcher (source flags : String)
  | name (x : String)
  | self
  | newTarget
  | template (first : String) (rest : List (Expression × String))
  | tagged (tag : Expression) (cooked raw : List String) (values : List Expression)
  | list (items : List Item)
  | record (members : List Member)
  | function (f : Lambda)
  | classOf (c : ClassTerm)
  | unary (operator : UnaryOperator) (operand : Expression)
  | delete (operand : Expression)
  -- Adds to a place; the value is the one before or the one after.
  | update (after : Bool) (amount : Int) (place : Expression)
  | binary (operator : Operator) (left right : Expression)
  | shortcut (operator : Shortcut) (left right : Expression)
  | assign (place : Pattern) (value : Expression)
  | assignWith (operator : Operator) (place value : Expression)
  | assignUnless (operator : Shortcut) (place value : Expression)
  | conditional (test yes no : Expression)
  | call (callee : Expression) (optional : Bool) (arguments : List Item)
  | construct (callee : Expression) (arguments : List Item)
  | property (object : Expression) (optional : Bool) (key : PropertyName)
  -- The end of what a missing link of an optional chain skips.
  | chain (links : Expression)
  | superProperty (key : PropertyName)
  | superCall (arguments : List Item)
  | sequence (first second : Expression)
  | await (promise : Expression)
  | yield (delegates : Bool) (value : Expression)

inductive PropertyName
  | fixed (s : String)
  | computed (e : Expression)
  | hidden (s : String)

inductive Item
  | hole
  | one (e : Expression)
  | spread (e : Expression)

inductive Member
  | field (key : PropertyName) (value : Expression)
  | method (kind : MemberKind) (key : PropertyName) (f : Lambda)
  | spread (e : Expression)

inductive Pattern
  | place (e : Expression)
  | list (items : List (Option Pattern)) (rest : Option Pattern)
  | record (fields : List (PropertyName × Pattern)) (rest : Option Pattern)
  -- A place with a value that stands in for `undefined`.
  | orElse (p : Pattern) (value : Expression)

inductive Lambda
  | mk (name : String) (role : Role) (style : Style) (parameters : List Pattern)
      (rest : Option Pattern) (body : List Statement) (hoisted : List String) (source : String)

inductive ClassTerm
  | mk (name : Option String) (parent : Option Expression) (elements : List ClassElement)
      (source : String)

inductive ClassElement
  | member (isStatic : Bool) (m : Member)
  -- A field; its value is worked out for each instance.
  | field (isStatic : Bool) (key : PropertyName) (value : Option Lambda)
  | block (body : Lambda)

inductive Statement
  | empty
  | evaluate (e : Expression)
  | declare (kind : Declaring) (items : List (Pattern × Option Expression))
  | function (f : Lambda)
  | classOf (c : ClassTerm)
  | block (body : List Statement)
  | branch (test : Expression) (yes : Statement) (no : Option Statement)
  -- A loop; `late` says that its body runs before the first test.
  | loop (late : Bool) (test : Expression) (body : Statement)
  | count (start : Option Statement) (test step : Option Expression) (body : Statement)
  | each (keys : Bool) (kind : Option Declaring) (place : Pattern) (source : Expression)
      (body : Statement)
  | labelled (label : String) (body : Statement)
  | leave (label : Option String)
  | next (label : Option String)
  | answer (e : Option Expression)
  | raise (e : Expression)
  | guarded (body : List Statement) (handler : Option (Option Pattern × List Statement))
      (final : Option (List Statement))
  | choose (subject : Expression) (cases : List (Option Expression × List Statement))

end

instance : Inhabited Expression := ⟨.undefined⟩
instance : Inhabited Statement := ⟨.empty⟩
instance : Inhabited Lambda := ⟨.mk "" .plain .plain [] none [] [] ""⟩

structure Code where
  body : List Statement
  hoisted : List String
  deriving Inhabited

namespace Lambda

def name : Lambda → String | .mk n .. => n
def role : Lambda → Role | .mk _ r .. => r
def style : Lambda → Style | .mk _ _ s .. => s
def parameters : Lambda → List Pattern | .mk _ _ _ p .. => p
def rest : Lambda → Option Pattern | .mk _ _ _ _ r .. => r
def body : Lambda → List Statement | .mk _ _ _ _ _ b .. => b
def hoisted : Lambda → List String | .mk _ _ _ _ _ _ h _ => h
def source : Lambda → String | .mk _ _ _ _ _ _ _ s => s

def withRole : Lambda → Role → Lambda
  | .mk name _ s p rest b h source, role => .mk name role s p rest b h source

end Lambda

namespace Pattern

mutual

def names : Pattern → List String
  | .place (.name x) => [x]
  | .place _ => []
  | .list items rest => namesOfItems items ++ namesOfOption rest
  | .record fields rest => namesOfFields fields ++ namesOfOption rest
  | .orElse p _ => names p

def namesOfOption : Option Pattern → List String
  | none => []
  | some p => names p

def namesOfItems : List (Option Pattern) → List String
  | [] => []
  | item :: rest => namesOfOption item ++ namesOfItems rest

def namesOfFields : List (PropertyName × Pattern) → List String
  | [] => []
  | (_, p) :: rest => names p ++ namesOfFields rest

end

end Pattern

end ScriptConsole.Engine
