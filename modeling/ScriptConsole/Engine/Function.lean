import ScriptConsole.Engine.Promise

/-!
Functions: making them from their terms, and what scopes hold while they run. A scope keeps `this`,
the function that runs, what it constructs and where `super` starts under names that no script can
declare. -/
namespace ScriptConsole.Engine
open Action

namespace Scope

def self : String := "this"
def target : String := "new.target"
def callee : String := "class"
def home : String := "super"

def outermost : Nat := 0

end Scope

namespace Action

def declareValue (scope : Nat) (name : String) (v : Value) : Action Unit :=
  declare scope ⟨name, some v, false⟩

/- Gives a declared name its value; a name declared as a constant stays one. -/
def fillName (scope : Nat) (name : String) (v : Value) : Action Unit := do
  let s := (← get).scopes.getD scope default
  let constant := ((s.bindings.find? (·.name == name)).map (·.constant)).getD false
  declare scope ⟨name, some v, constant⟩

def kept (scope : Nat) (name : String) : Action Value := do
  match ← binding? scope name with
  | some (_, binding) =>
      match binding.value with
      | some v => return v
      | none => fail .reference (name ++ " is not initialized")
  | none => return .undefined

end Action

def Lambda.arity (f : Lambda) : Nat :=
  (f.parameters.takeWhile fun p => match p with
    | .orElse .. => false
    | _ => true).length

def newFunction (scope : Nat) (f : Lambda) (name : String) (home : Option Nat) :
    Action Value := do
  let ref ← allocate (.ofKind (.closure ⟨f, scope, home, []⟩) (some Place.functionProto))
  let fixed (key : String) (v : Value) : Action Unit :=
    define ref (.name key) (.data v false false true)
  fixed "length" (.number (Float.ofNat f.arity))
  fixed "name" (.text name)
  match f.role, f.style with
  | .plain, .plain =>
      let proto ← newRecord
      define proto (.name "constructor") (.quiet (.object ref))
      define ref (.name "prototype") (.data (.object proto) true false false)
  | _, .yielding =>
      let proto ← make .plain Place.cursorProto
      define ref (.name "prototype") (.data proto true false false)
  | _, _ => return .object ref
  return .object ref

def newNamedFunction (scope : Nat) (f : Lambda) : Action Value := do
  if f.name == "" then newFunction scope f "" none
  else
    let inner ← newScope scope
    let v ← newFunction inner f f.name none
    declare inner ⟨f.name, some v, true⟩
    return v

def defineAccessor (ref : Nat) (key : Key) (kind : MemberKind) (enumerable : Bool) (f : Value) :
    Action Unit := do
  let (getter, setter) := match (← object ref).slot? key with
    | some (.accessor getter setter ..) => (getter, setter)
    | _ => (.undefined, .undefined)
  match kind with
  | .setter => define ref key (.accessor getter f enumerable true)
  | _ => define ref key (.accessor f setter enumerable true)

def methodName (kind : MemberKind) (key : Key) : String :=
  let own := match key with
    | .symbol s => "[" ++ s.description.getD "" ++ "]"
    | key => key.describe
  match kind with
  | .method => own
  | .getter => "get " ++ own
  | .setter => "set " ++ own

def defineMethod (scope ref : Nat) (kind : MemberKind) (key : Key) (f : Lambda)
    (enumerable : Bool) : Action Unit := do
  let v ← newFunction scope f (methodName kind key) (some ref)
  match kind with
  | .method => define ref key (.data v true enumerable true)
  | _ => defineAccessor ref key kind enumerable v

def scopedNames : List Statement → List (String × Bool)
  | [] => []
  | .declare .changeable items :: rest =>
      (items.flatMap fun (p, _) => p.names.map (·, false)) ++ scopedNames rest
  | .declare .constant items :: rest =>
      (items.flatMap fun (p, _) => p.names.map (·, true)) ++ scopedNames rest
  | .classOf (.mk (some name) ..) :: rest => (name, false) :: scopedNames rest
  | _ :: rest => scopedNames rest

def declaredFunctions : List Statement → List Lambda
  | [] => []
  | .function f :: rest => f :: declaredFunctions rest
  | .labelled _ (.function f) :: rest => f :: declaredFunctions rest
  | _ :: rest => declaredFunctions rest

def prepare (scope : Nat) (statements : List Statement) : Action Unit := do
  (scopedNames statements).forM fun (name, constant) => declare scope ⟨name, none, constant⟩
  (declaredFunctions statements).forM fun f => do
    declareValue scope f.name (← newFunction scope f f.name none)

namespace Recur

def executeAll (r : Recur) (scope : Nat) : List Statement → Option Value → Action Flow
  | [], last => return .normal last
  | s :: rest, last => do
      match ← r.execute scope [] s with
      | .normal v => executeAll r scope rest (v <|> last)
      | .leave label v => return .leave label (v <|> last)
      | .next label v => return .next label (v <|> last)
      | .answer v => return .answer v

def bindAll (r : Recur) (scope : Nat) : List Pattern → List Value → Action (List Value)
  | [], arguments => return arguments
  | p :: rest, arguments => do
      r.bind scope true p (arguments.headD .undefined)
      bindAll r scope rest arguments.tail

def newArguments (arguments : List Value) : Action Value := do
  let ref ← newRecord
  arguments.zipIdx.forM fun (v, n) => define ref (Key.ofNat n) (.ordinary v)
  define ref (.name "length") (.quiet (.number (Float.ofNat arguments.length)))
  let values ← slot? Place.arrayProto (.name "values")
  (values.toList).forM fun slot => define ref (.symbol Symbol.iterator) slot
  return .object ref

/- Runs the body of a function in a scope of its own; gives the scope, too. -/
def enter (r : Recur) (callee : Value) (f : Closure) (this : Option Value) (target : Value)
    (arguments : List Value) : Action (Nat × Value) := do
  step
  let scope ← newScope f.scope
  if f.lambda.role != .arrow then
    declare scope ⟨Scope.self, this, true⟩
    declareValue scope Scope.target target
    declareValue scope Scope.callee callee
    match f.home with
    | some home => declareValue scope Scope.home (.object home)
    | none => declareValue scope Scope.home .undefined
  f.lambda.hoisted.forM fun name => do
    if name == "arguments" then declareValue scope name (← newArguments arguments)
    else declareValue scope name .undefined
  let left ← r.bindAll scope f.lambda.parameters arguments
  match f.lambda.rest with
  | some p => r.bind scope true p (← newArray left)
  | none => pure ()
  prepare scope f.lambda.body
  match ← r.executeAll scope f.lambda.body none with
  | .answer v => return (scope, v)
  | _ => return (scope, .undefined)

def maxYields : Nat := 10000

def collect (action : Action Value) : Action (List Value) := do
  modify fun m => { m with yielded := #[] :: m.yielded }
  let taken : Action (List Value) := modifyGet fun m => match m.yielded with
    | first :: rest => (first.toList, { m with yielded := rest })
    | [] => ([], m)
  tryCatch (discard action) fun
    | .sated => return
    | e => do
        discard taken
        throw e
  taken

def yieldValue (v : Value) : Action Unit := do
  let full ← modifyGet fun m => match m.yielded with
    | first :: rest => (decide (maxYields ≤ first.size), { m with yielded := first.push v :: rest })
    | [] => (false, m)
  if full then throw .sated

def start (r : Recur) (callee : Value) (f : Closure) (this : Value) (arguments : List Value) :
    Action Value := do
  let body : Action Value := return (← r.enter callee f (some this) .undefined arguments).2
  match f.lambda.style with
  | .plain => body
  | .promising =>
      let promise ← Promise.pending
      tryCatch (do Promise.resolve r promise (← body)) fun
        | .thrown v => Promise.reject promise v
        | .sated => return
        | e => throw e
      return .object promise
  | .yielding =>
      let values ← collect body
      match ← r.getNamed callee "prototype" with
      | .object proto => make (.cursor values) proto
      | _ => make (.cursor values) Place.cursorProto

def addFields (r : Recur) (scope : Nat) (home made : Nat) :
    List (Key × Option Lambda) → Action Unit
  | [] => return
  | (key, value) :: rest => do
      let v ← match value with
        | none => pure .undefined
        | some f =>
            let method ← newFunction scope f "" (some home)
            r.call method (.object made) []
      define made key (.ordinary v)
      addFields r scope home made rest

def protoFor (r : Recur) (target : Value) (otherwise : Nat) : Action Nat := do
  match target with
  | .object _ =>
      match ← r.getNamed target "prototype" with
      | .object proto => return proto
      | _ => return otherwise
  | _ => return otherwise

def addFieldsOf (r : Recur) (f : Closure) (v : Value) : Action Unit := do
  match v, f.home with
  | .object ref, some home => r.addFields f.scope home ref f.fields
  | _, _ => return

end Recur

def callValue (natives : Array Native) (r : Recur) (callee this : Value)
    (arguments : List Value) : Action Value := do
  let ref ← match callee with
    | .object ref => pure ref
    | _ => mistyped "not a function"
  match (← object ref).kind with
  | .closure f =>
      match f.lambda.role with
      | .constructor | .derived => mistyped "class constructors must be invoked with 'new'"
      | _ => r.start callee f this arguments
  | .native index held _ =>
      step
      (natives.getD index Native.nothing) r ⟨this, arguments, held, .undefined⟩
  | _ => mistyped "not a function"

def constructValue (natives : Array Native) (r : Recur) (callee : Value)
    (arguments : List Value) (target : Value) : Action Value := do
  let ref ← match callee with
    | .object ref => pure ref
    | _ => mistyped "not a constructor"
  match (← object ref).kind with
  | .closure f =>
      match f.lambda.role, f.lambda.style with
      | .derived, _ =>
          let (scope, v) ← r.enter callee f none target arguments
          if isObject v then return v else kept scope Scope.self
      | .constructor, _ | .plain, .plain =>
          let this ← make .plain (← r.protoFor target Place.objectProto)
          r.addFieldsOf f this
          let (_, v) ← r.enter callee f (some this) target arguments
          return if isObject v then v else this
      | _, _ => mistyped "not a constructor"
  | .native index held true =>
      step
      (natives.getD index Native.nothing) r ⟨.undefined, arguments, held, target⟩
  | _ => mistyped "not a constructor"

end ScriptConsole.Engine
