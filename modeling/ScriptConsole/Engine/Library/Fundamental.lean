import ScriptConsole.Engine.Operate
import ScriptConsole.Engine.Function
import ScriptConsole.Engine.Library.Shelf

/-!
Objects, functions, errors, symbols and truth values. -/
namespace ScriptConsole.Engine
open Action

namespace Record

def counted (v : Value) : Action (List Key) := do
  let ref ← Recur.toObject v
  let o ← object ref
  return o.keys.filter fun key => match key with
    | .name _ => ((o.slot? key).map Slot.enumerable).getD false
    | _ => false

def ownNames (v : Value) : Action (List Value) := do
  let ref ← Recur.toObject v
  return (← object ref).keys.filterMap fun key => match key with
    | .name s => some (.text s)
    | _ => none

def ownSymbols (v : Value) : Action (List Value) := do
  let ref ← Recur.toObject v
  return (← object ref).keys.filterMap fun key => match key with
    | .symbol s => some (.symbol s)
    | _ => none

def describe (slot : Slot) : Action Value := do
  let ref ← newRecord
  let add (name : String) (v : Value) : Action Unit := define ref (.name name) (.ordinary v)
  match slot with
  | .data v writable enumerable configurable =>
      add "value" v
      add "writable" (.boolean writable)
      add "enumerable" (.boolean enumerable)
      add "configurable" (.boolean configurable)
  | .accessor getter setter enumerable configurable =>
      add "get" getter
      add "set" setter
      add "enumerable" (.boolean enumerable)
      add "configurable" (.boolean configurable)
  return .object ref

def defineAs (r : Recur) (ref : Nat) (key : Key) (description : Value) : Action Unit := do
  if !isObject description then mistyped "not an object"
  let field (name : String) : Action (Option Value) := do
    if ← Recur.has description (.name name) then
      return some (← r.getNamed description name)
    else return none
  let o ← object ref
  let old? := o.slot? key
  if old?.isNone && !o.extensible then mistyped "object is not extensible"
  let flag (name : String) (before : Bool) : Action Bool := do
    return ((← field name).map truthy).getD before
  let enumerable ← flag "enumerable" ((old?.map Slot.enumerable).getD false)
  let configurable ← flag "configurable" ((old?.map Slot.configurable).getD false)
  let getter? ← field "get"
  let setter? ← field "set"
  if let some old := old? then
    if !old.configurable && (configurable || enumerable != old.enumerable) then
      mistyped "property is not configurable"
  if getter?.isSome || setter?.isSome then
    let (getter, setter) := match old? with
      | some (.accessor getter setter ..) => (getter, setter)
      | _ => (.undefined, .undefined)
    define ref key (.accessor (getter?.getD getter) (setter?.getD setter) enumerable configurable)
  else
    let (before, wasWritable) := match old? with
      | some (.data v writable ..) => (v, writable)
      | _ => (.undefined, false)
    let v := (← field "value").getD before
    let writable ← flag "writable" wasWritable
    match old? with
    | some (.data _ false _ false) =>
        if writable || !sameValue v before then mistyped "property is not configurable"
    | _ => pure ()
    define ref key (.data v writable enumerable configurable)

def needObject (v : Value) : Action Nat := do
  match v with
  | .object ref => return ref
  | _ => mistyped "not an object"

def defineAll (r : Recur) (ref : Nat) (descriptions : Value) : Action Unit := do
  (← counted descriptions).forM fun key => do
    defineAs r ref key (← r.get descriptions key)

def setProto (ref : Nat) (proto : Value) : Action Unit := do
  match proto with
  | .object parent =>
      let m ← get
      if parent = ref || inherits m.heap ref 10000 parent then
        mistyped "circular prototype chain"
      update ref fun o => { o with proto := some parent }
  | .null => update ref fun o => { o with proto := none }
  | _ => mistyped "not an object"

/- An object that can grow no more; its properties stay, and keep their values when frozen. -/
def close (ref : Nat) (frozen : Bool) : Action Unit :=
  update ref fun o => { o with
    extensible := false
    frozen := o.frozen || frozen
    slots := o.slots.map fun (key, slot) => (key, match slot with
      | .data v writable enumerable _ => .data v (writable && !frozen) enumerable false
      | .accessor getter setter enumerable _ => .accessor getter setter enumerable false) }

def isClosed (ref : Nat) (frozen : Bool) : Action Bool := do
  let o ← object ref
  let items := match o.kind with
    | .array items => items.isEmpty || o.frozen
    | _ => true
  return !o.extensible && items && o.slots.all fun (_, slot) => match slot with
    | .data _ writable _ configurable => !configurable && !(frozen && writable)
    | .accessor _ _ _ configurable => !configurable

def tag (r : Recur) (v : Value) : Action String := do
  match v with
  | .undefined => return "Undefined"
  | .null => return "Null"
  | _ =>
      match ← r.get v (.symbol Symbol.toStringTag) with
      | .text s => return s
      | _ =>
          match v with
          | .object ref =>
              return match (← object ref).kind with
                | .array _ => "Array"
                | .closure _ | .native .. => "Function"
                | .error => "Error"
                | .date _ => "Date"
                | .matcher .. => "RegExp"
                | .wrapped (.text _) => "String"
                | .wrapped (.number _) => "Number"
                | .wrapped (.boolean _) => "Boolean"
                | _ => "Object"
          | .text _ => return "String"
          | .number _ => return "Number"
          | .boolean _ => return "Boolean"
          | _ => return "Object"

def entry (key : Key) (v : Value) : Action Value := newArray [key.toValue, v]

def statics : List Content := [
  .function "create" 2 fun r use => do
    let ref ← allocate (.ofKind .plain none)
    setProto ref (use.argument 0)
    match use.argument 1 with
    | .undefined => pure ()
    | descriptions => defineAll r ref descriptions
    return .object ref,
  .function "getPrototypeOf" 1 fun _ use => do
    let ref ← Recur.toObject (use.argument 0)
    return ((← object ref).proto.map Value.object).getD .null,
  .function "setPrototypeOf" 2 fun _ use => do
    match use.argument 0, use.argument 1 with
    | .object ref, proto => setProto ref proto
    | _, .object _ | _, .null => pure ()
    | _, _ => mistyped "not an object"
    return use.argument 0,
  .function "defineProperty" 3 fun r use => do
    let ref ← needObject (use.argument 0)
    defineAs r ref (← r.toKey (use.argument 1)) (use.argument 2)
    return use.argument 0,
  .function "defineProperties" 2 fun r use => do
    defineAll r (← needObject (use.argument 0)) (use.argument 1)
    return use.argument 0,
  .function "getOwnPropertyNames" 1 fun _ use => do newArray (← ownNames (use.argument 0)),
  .function "getOwnPropertySymbols" 1 fun _ use => do newArray (← ownSymbols (use.argument 0)),
  .function "groupBy" 2 fun r use => do
    let ref ← allocate (.ofKind .plain none)
    let items ← r.toList (use.argument 0)
    items.zipIdx.forM fun (item, n) => do
      let key ← r.toKey (← r.call (use.argument 1) .undefined [item, .number (Float.ofNat n)])
      match (← object ref).slot? key with
      | some (.data (.object group) ..) =>
          let size ← r.lengthOf (.object group)
          define group (Key.ofNat size) (.ordinary item)
      | _ => define ref key (.ordinary (← newArray [item]))
    return .object ref,
  .function "keys" 1 fun _ use => do
    newArray ((← counted (use.argument 0)).map Key.toValue),
  .function "values" 1 fun r use => do
    newArray (← (← counted (use.argument 0)).mapM fun key => r.get (use.argument 0) key),
  .function "entries" 1 fun r use => do
    newArray (← (← counted (use.argument 0)).mapM fun key => do
      entry key (← r.get (use.argument 0) key)),
  .function "isExtensible" 1 fun _ use => do
    match use.argument 0 with
    | .object ref => return .boolean (← object ref).extensible
    | _ => return .boolean false,
  .function "preventExtensions" 1 fun _ use => do
    match use.argument 0 with
    | .object ref => update ref fun o => { o with extensible := false }
    | _ => pure ()
    return use.argument 0,
  .function "getOwnPropertyDescriptor" 2 fun r use => do
    let ref ← Recur.toObject (use.argument 0)
    match (← object ref).slot? (← r.toKey (use.argument 1)) with
    | some slot => describe slot
    | none => return .undefined,
  .function "getOwnPropertyDescriptors" 1 fun _ use => do
    let ref ← Recur.toObject (use.argument 0)
    let described ← newRecord
    let o ← object ref
    o.keys.forM fun key => do
      match o.slot? key with
      | some slot => define described key (.ordinary (← describe slot))
      | none => return
    return .object described,
  .function "is" 2 fun _ use => return .boolean (identical (use.argument 0) (use.argument 1)),
  .function "assign" 2 fun r use => do
    let target := Value.object (← Recur.toObject (use.argument 0))
    use.arguments.tail.forM fun source => do
      if !isNullish source then
        let ref ← Recur.toObject source
        (← object ref).keys.forM fun key => do
          match (← object ref).slot? key with
          | some slot => if slot.enumerable then r.set target key (← r.get source key)
          | none => return
    return target,
  .function "seal" 1 fun _ use => do
    match use.argument 0 with
    | .object ref => close ref false
    | _ => pure ()
    return use.argument 0,
  .function "freeze" 1 fun _ use => do
    match use.argument 0 with
    | .object ref => close ref true
    | _ => pure ()
    return use.argument 0,
  .function "isSealed" 1 fun _ use => do
    match use.argument 0 with
    | .object ref => return .boolean (← isClosed ref false)
    | _ => return .boolean true,
  .function "isFrozen" 1 fun _ use => do
    match use.argument 0 with
    | .object ref => return .boolean (← isClosed ref true)
    | _ => return .boolean true,
  .function "fromEntries" 1 fun r use => do
    let ref ← newRecord
    (← r.toList (use.argument 0)).forM fun pair => do
      let key ← r.toKey (← r.getNamed pair "0")
      define ref key (.ordinary (← r.getNamed pair "1"))
    return .object ref,
  .function "hasOwn" 2 fun r use => do
    let ref ← Recur.toObject (use.argument 0)
    return .boolean ((← object ref).slot? (← r.toKey (use.argument 1))).isSome]

def methods : List Content := [
  .function "toString" 0 fun r use => return .text ("[object " ++ (← tag r use.this) ++ "]"),
  .function "toLocaleString" 0 fun r use => r.invoke use.this (.name "toString") [],
  .function "valueOf" 0 fun _ use => return .object (← Recur.toObject use.this),
  .function "hasOwnProperty" 1 fun r use => do
    let key ← r.toKey (use.argument 0)
    let ref ← Recur.toObject use.this
    return .boolean ((← object ref).slot? key).isSome,
  .function "isPrototypeOf" 1 fun _ use => do
    match use.this, use.argument 0 with
    | .object this, .object ref => return .boolean (inherits (← get).heap this 10000 ref)
    | _, _ => return .boolean false,
  .function "propertyIsEnumerable" 1 fun r use => do
    let ref ← Recur.toObject use.this
    match (← object ref).slot? (← r.toKey (use.argument 0)) with
    | some slot => return .boolean slot.enumerable
    | none => return .boolean false,
  .accessor (.name "__proto__")
    (fun _ use => do
      let ref ← Recur.toObject use.this
      return ((← object ref).proto.map Value.object).getD .null)
    (fun _ use => do
      match use.this, use.argument 0 with
      | .object ref, .object _ | .object ref, .null => setProto ref (use.argument 0)
      | _, _ => pure ()
      return .undefined),
  .missing "__defineGetter__", .missing "__defineSetter__",
  .missing "__lookupGetter__", .missing "__lookupSetter__"]

def shelf : Shelf :=
  .constructor "Object" 1 true (fun _ use => do
    if isNullish (use.argument 0) then return .object (← newRecord)
    else return .object (← Recur.toObject (use.argument 0)))
    Place.objectProto none statics methods

end Record

namespace Callable

def bound : Native := fun r use => do
  match use.held with
  | f :: this :: first =>
      if isObject use.target then r.construct f (first ++ use.arguments) f
      else r.call f this (first ++ use.arguments)
  | _ => return .undefined

def bindingIndex : Nat := 2

def source (ref : Nat) : Action String := do
  let o ← object ref
  match o.kind with
  | .closure f => return f.lambda.source
  | _ =>
      let name := match o.slot? (.name "name") with
        | some (.data (.text s) ..) => s
        | _ => ""
      return "function " ++ name ++ "() \x7b\n    [native code]\n\x7d"

def methods : List Content := [
  .function "call" 1 fun r use =>
    r.call use.this (use.argument 0) use.arguments.tail,
  .function "apply" 2 fun r use => do
    if isNullish (use.argument 1) then r.call use.this (use.argument 0) []
    else if isObject (use.argument 1) then
      r.call use.this (use.argument 0) (← r.itemsOf (use.argument 1))
    else mistyped "not a object",
  .function "bind" 1 fun r use => do
    if !(← isCallable use.this) then mistyped "not a function"
    let name ← r.getNamed use.this "name"
    let length ← r.lengthOf use.this
    let held := use.this :: use.argument 0 :: use.arguments.tail
    let title := match name with
      | .text s => s
      | _ => ""
    return .object (← Shelf.newNative bindingIndex held true ("bound " ++ title)
      (length - use.arguments.tail.length)),
  .function "toString" 0 fun _ use => do
    match use.this with
    | .object ref =>
        if (← object ref).isCallable then return .text (← source ref)
        else mistyped "not a function"
    | _ => mistyped "not a function",
  .method (.symbol Symbol.hasInstance) 1 fun r use => do
    match use.argument 0, ← r.getNamed use.this "prototype" with
    | .object ref, .object proto => return .boolean (inherits (← getThe Machine).heap proto 10000 ref)
    | _, _ => return .boolean false]

def shelf : Shelf :=
  .constructor "Function" 1 true (fun _ _ => mistyped "unsupported")
    Place.functionProto none [] methods

end Callable

namespace Failure

def make (kind : ErrorKind) : Native := fun r use => do
  let proto ← r.protoFor use.target kind.proto
  let ref ← allocate (.ofKind .error (some proto))
  let (message, options) := if kind = .aggregate then (use.argument 1, use.argument 2)
    else (use.argument 0, use.argument 1)
  match message with
  | .undefined => pure ()
  | v => define ref (.name "message") (.quiet (.text (← r.toText v)))
  if ← Recur.has options (.name "cause") then
    define ref (.name "cause") (.quiet (← r.getNamed options "cause"))
  if kind = .aggregate then
    define ref (.name "errors") (.quiet (← newArray (← r.toList (use.argument 0))))
  define ref (.name "stack") (.quiet (.text ""))
  return .object ref

def toText : Native := fun r use => do
  let word (name otherwise : String) : Action String := do
    match ← r.getNamed use.this name with
    | .undefined => return otherwise
    | v => r.toText v
  let name ← word "name" "Error"
  let message ← word "message" ""
  return .text (if name.isEmpty then message
    else if message.isEmpty then name
    else name ++ ": " ++ message)

def shelf (kind : ErrorKind) : Shelf :=
  let own : List Content :=
    [.datum (.name "name") (.text kind.name), .datum (.name "message") (.text "")]
  if kind = .general then
    .constructor kind.name 1 true (make kind) kind.proto none
      [.missing "captureStackTrace"] (.function "toString" 0 toText :: own)
  else
    .constructor kind.name (if kind = .aggregate then 2 else 1) true (make kind) kind.proto
      (some Place.errorProto) [] own

end Failure

namespace Wrapped

def value (word : String) (fits : Value → Bool) (v : Value) : Action Value := do
  if fits v then return v
  match v with
  | .object ref =>
      match (← object ref).kind with
      | .wrapped inner => if fits inner then return inner else mistyped ("not a " ++ word)
      | _ => mistyped ("not a " ++ word)
  | _ => mistyped ("not a " ++ word)

def isBoolean : Value → Bool
  | .boolean _ => true
  | _ => false

def isSymbol : Value → Bool
  | .symbol _ => true
  | _ => false

def orObject (r : Recur) (use : Use) (proto : Nat) (v : Value) : Action Value := do
  if isObject use.target then Action.make (.wrapped v) (← r.protoFor use.target proto)
  else return v

def booleans : Shelf :=
  .constructor "Boolean" 1 true
    (fun r use => orObject r use Place.booleanProto (.boolean (truthy (use.argument 0))))
    Place.booleanProto none []
    [.function "toString" 0 fun _ use => do
      return .text (← textOf (← value "boolean" isBoolean use.this)),
    .function "valueOf" 0 fun _ use => value "boolean" isBoolean use.this]
where
  textOf : Value → Action String
    | .boolean b => return if b then "true" else "false"
    | _ => return ""

def symbolNamed (name : String) : Action Value := do
  let key := "Symbol.for " ++ name
  match ← binding? Scope.outermost key with
  | some (_, ⟨_, some v, _⟩) => return v
  | _ =>
      let v ← modifyGet fun m =>
        (Value.symbol ⟨m.nextSymbol, some name⟩, { m with nextSymbol := m.nextSymbol + 1 })
      declare Scope.outermost ⟨key, some v, true⟩
      return v

def symbolOf (v : Value) : Action Symbol := do
  match ← value "symbol" isSymbol v with
  | .symbol s => return s
  | _ => mistyped "not a symbol"

def symbols : Shelf :=
  .constructor "Symbol" 0 true
    (fun r use => do
      if isObject use.target then mistyped "not a constructor"
      let description ← match use.argument 0 with
        | .undefined => pure none
        | v => some <$> r.toText v
      modifyGet fun m =>
        (.symbol ⟨m.nextSymbol, description⟩, { m with nextSymbol := m.nextSymbol + 1 }))
    Place.symbolProto none
    ([.function "for" 1 fun r use => do symbolNamed (← r.toText (use.argument 0)),
      .function "keyFor" 1 fun _ use => do
        let s ← symbolOf (use.argument 0)
        let m ← get
        let outermost := m.scopes.getD Scope.outermost default
        let known := outermost.bindings.any fun b => match b.value with
          | some (.symbol t) => b.name.startsWith "Symbol.for " && s == t
          | _ => false
        return match s.description with
          | some name => if known then .text name else .undefined
          | none => .undefined] ++
      Symbol.known.map fun (name, s) => .constant (.name name) (.symbol s))
    [.function "toString" 0 fun _ use => return .text (← symbolOf use.this).describe,
      .function "valueOf" 0 fun _ use => return .symbol (← symbolOf use.this),
      .getter (.name "description") fun _ use => do
        return match (← symbolOf use.this).description with
          | some s => .text s
          | none => .undefined,
      .method (.symbol Symbol.toPrimitive) 1 fun _ use => return .symbol (← symbolOf use.this),
      .datum (.symbol Symbol.toStringTag) (.text "Symbol")]

end Wrapped

end ScriptConsole.Engine
