import ScriptConsole.Engine.Function
import ScriptConsole.Engine.Operate

/-!
What expressions evaluate to. Each definition is one step: the terms inside a term are left to the
`Recur` it is given. -/
namespace ScriptConsole.Engine
open Action

namespace Recur

def readName (r : Recur) (scope : Nat) (name : String) : Action Value := do
  match ← binding? scope name with
  | some (_, binding) =>
      match binding.value with
      | some v => return v
      | none => fail .reference (name ++ " is not initialized")
  | none =>
      match ← slot? Place.globalObject (.name name) with
      | none => fail .reference (name ++ " is not defined")
      | slot => r.read (.object Place.globalObject) slot

def writeName (r : Recur) (scope : Nat) (name : String) (v : Value) : Action Unit := do
  match ← binding? scope name with
  | some (home, binding) =>
      if binding.value.isNone then fail .reference (name ++ " is not initialized")
      else if binding.constant then mistyped ("'" ++ name ++ "' is read-only")
      else declare home { binding with value := some v }
  | none =>
      match ← slot? Place.globalObject (.name name) with
      | none => fail .reference (name ++ " is not defined")
      | some _ => r.set (.object Place.globalObject) (.name name) v

def keyOf (r : Recur) (scope : Nat) : PropertyName → Action Key
  | .fixed s => return .name s
  | .hidden s => return .hidden s
  | .computed e => do r.toKey (← r.evaluate scope e)

def evaluateNamed (r : Recur) (scope : Nat) (name : String) (e : Expression) : Action Value :=
  match e with
  | .function f => if f.name == "" then newFunction scope f name none else r.evaluate scope e
  | .classOf (.mk none parent elements source) =>
      r.evaluate scope (.classOf (.mk (some name) parent elements source))
  | _ => r.evaluate scope e

def nameOfPlace : Pattern → String
  | .place (.name x) => x
  | _ => ""

def itemValues (r : Recur) (scope : Nat) : List Item → Action (List (Option Value))
  | [] => return []
  | .hole :: rest => return none :: (← itemValues r scope rest)
  | .one e :: rest => do
      let v ← r.evaluate scope e
      return some v :: (← itemValues r scope rest)
  | .spread e :: rest => do
      let values ← r.toList (← r.evaluate scope e)
      return values.map some ++ (← itemValues r scope rest)

def argumentValues (r : Recur) (scope : Nat) (items : List Item) : Action (List Value) := do
  return (← r.itemValues scope items).map (·.getD .undefined)

def copyInto (r : Recur) (ref : Nat) (v : Value) (omitted : List Key) : Action Unit := do
  if isNullish v then return
  let source ← toObject v
  (← object source).keys.forM fun key => do
    match (← object source).slot? key with
    | some slot =>
        if slot.enumerable && !omitted.contains key then
          define ref key (.ordinary (← r.get v key))
    | none => return

def addMember (r : Recur) (scope ref : Nat) : Member → Action Unit
  | .field (.fixed "__proto__") e => do
      match ← r.evaluate scope e with
      | .object proto => update ref fun o => { o with proto := some proto }
      | .null => update ref fun o => { o with proto := none }
      | _ => return
  | .field key e => do
      let key ← r.keyOf scope key
      let v ← r.evaluateNamed scope (methodName .method key) e
      define ref key (.ordinary v)
  | .method kind key f => do defineMethod scope ref kind (← r.keyOf scope key) f true
  | .spread e => do r.copyInto ref (← r.evaluate scope e) []

def parentOfHome (scope : Nat) : Action Value := do
  match ← kept scope Scope.home with
  | .object home =>
      match (← object home).proto with
      | some proto => return .object proto
      | none => return .null
  | _ => return .undefined

def superGet (r : Recur) (scope : Nat) (key : PropertyName) : Action Value := do
  let key ← r.keyOf scope key
  match ← parentOfHome scope with
  | .object proto => r.read (← kept scope Scope.self) (← slot? proto key)
  | _ => return .undefined

def getHidden (r : Recur) (v : Value) (key : Key) : Action Value := do
  match key with
  | .hidden name =>
      if ← has v key then r.get v key
      else mistyped ("private class field '" ++ name ++ "' does not exist")
  | _ => r.get v key

def setHidden (r : Recur) (v : Value) (key : Key) (x : Value) : Action Unit := do
  match key with
  | .hidden name =>
      if ← has v key then r.set v key x
      else mistyped ("private class field '" ++ name ++ "' does not exist")
  | _ => r.set v key x

def linkObject (r : Recur) (scope : Nat) (e : Expression) (optional : Bool) : Action Value := do
  let v ← r.evaluate scope e
  if optional && isNullish v then throw .skipped
  return v

def calleeOf (r : Recur) (scope : Nat) (e : Expression) : Action (Value × Value) := do
  match e with
  | .property o optional key =>
      let this ← r.linkObject scope o optional
      return (← r.getHidden this (← r.keyOf scope key), this)
  | .superProperty key => return (← r.superGet scope key, ← kept scope Scope.self)
  | _ => return (← r.evaluate scope e, .undefined)

def constructParent (r : Recur) (scope : Nat) (items : List Item) : Action Value := do
  let arguments ← r.argumentValues scope items
  match ← kept scope Scope.callee with
  | .object ref =>
      let o ← object ref
      let parent := (o.proto.map Value.object).getD .undefined
      let this ← r.construct parent arguments (← kept scope Scope.target)
      match ← binding? scope Scope.self with
      | some (home, binding) =>
          if binding.value.isSome then fail .reference "'this' can be initialized only once"
          declare home ⟨Scope.self, some this, true⟩
      | none => return this
      match o.kind with
      | .closure f => r.addFieldsOf f this
      | _ => return this
      return this
  | _ => fail .grammar "super() is only valid in a derived class constructor"

structure PlaceAccess where
  read : Action Value
  write : Value → Action Unit

def access (r : Recur) (scope : Nat) (e : Expression) : Action PlaceAccess := do
  match e with
  | .name x => return ⟨r.readName scope x, r.writeName scope x⟩
  | .property o _ key =>
      let v ← r.evaluate scope o
      let key ← r.keyOf scope key
      return ⟨r.getHidden v key, r.setHidden v key⟩
  | .superProperty key =>
      let this ← kept scope Scope.self
      return ⟨r.superGet scope key, fun x => do r.set this (← r.keyOf scope key) x⟩
  | _ => fail .grammar "invalid assignment left-hand side"

def bindPattern (r : Recur) (scope : Nat) (declares : Bool) (p : Pattern) (v : Value) :
    Action Unit := do
  match p with
  | .place (.name x) => if declares then fillName scope x v else r.writeName scope x v
  | .place e => (← r.access scope e).write v
  | .orElse p e =>
      match v with
      | .undefined => do
          r.bind scope declares p (← r.evaluateNamed scope (nameOfPlace p) e)
      | _ => r.bind scope declares p v
  | .list items rest =>
      let wanted := if rest.isSome then unbounded else items.length
      let (_, found) ← if wanted = 0 then pure (0, []) else
        r.iterate v (fun (n, found) x =>
          return if n + 1 < wanted then ForInStep.yield (n + 1, x :: found)
            else ForInStep.done (n + 1, x :: found)) (0, [])
      let values := found.reverse
      items.zipIdx.forM fun (item, n) => match item with
        | some p => r.bind scope declares p (values.getD n .undefined)
        | none => return
      match rest with
      | some p => do r.bind scope declares p (← newArray (values.drop items.length))
      | none => return
  | .record fields rest =>
      if isNullish v then mistyped "cannot convert to object"
      let keys ← fields.mapM fun (key, p) => do
        let key ← r.keyOf scope key
        r.bind scope declares p (← r.get v key)
        return key
      match rest with
      | some p =>
          let ref ← newRecord
          r.copyInto ref v keys
          r.bind scope declares p (.object ref)
      | none => return

def evaluateAssign (r : Recur) (scope : Nat) (place : Pattern) (value : Expression) :
    Action Value := do
  match place with
  | .place (.name x) =>
      let v ← r.evaluateNamed scope x value
      r.writeName scope x v
      return v
  | .place e =>
      let access ← r.access scope e
      let v ← r.evaluate scope value
      access.write v
      return v
  | _ =>
      let v ← r.evaluate scope value
      r.bind scope false place v
      return v

def stopsAt (operator : Shortcut) (v : Value) : Bool :=
  match operator with
  | .conjunction => !truthy v
  | .disjunction => truthy v
  | .coalesce => !isNullish v

def deleteFrom (r : Recur) (scope : Nat) (e : Expression) : Action Value := do
  match e with
  | .property o optional key =>
      let v ← r.linkObject scope o optional
      let key ← r.keyOf scope key
      match v with
      | .object ref =>
          match (← object ref).slot? key with
          | some slot =>
              if !slot.configurable then mistyped "could not delete property"
              update ref (·.withoutSlot key)
          | none => return .boolean true
          return .boolean true
      | .undefined | .null => mistyped "cannot convert to object"
      | _ => return .boolean true
  | _ => do
      discard (r.evaluate scope e)
      return .boolean true

def templateText (r : Recur) (scope : Nat) : List (Expression × String) → Action String
  | [] => return ""
  | (e, after) :: rest => do
      let s ← r.toText (← r.evaluate scope e)
      return s ++ after ++ (← templateText r scope rest)

def templateTexts (cooked raw : List String) : Action Value := do
  let v ← newArray (cooked.map .text)
  let rawTexts ← newArray (raw.map .text)
  match v with
  | .object ref => define ref (.name "raw") (.data rawTexts false false false)
  | _ => return v
  return v

def evaluateClass (r : Recur) (scope : Nat) : ClassTerm → Action Value
  | .mk name parent elements source => do
      let inner ← newScope scope
      name.forM fun name => declare inner ⟨name, none, true⟩
      let (protoParent, ancestor) : Option Nat × Option Nat ← match parent with
        | none => pure (some Place.objectProto, none)
        | some e =>
            match ← r.evaluate inner e with
            | .null => pure (none, some Place.functionProto)
            | .object parent =>
                if !(← object parent).isCallable then mistyped "parent class must be constructor"
                match ← r.getNamed (.object parent) "prototype" with
                | .object proto => pure (some proto, some parent)
                | .null => pure (none, some parent)
                | _ => mistyped "parent prototype must be an object or null"
            | _ => mistyped "parent class must be constructor"
      let proto ← allocate (.ofKind .plain protoParent)
      let role : Role := if parent.isSome then .derived else .constructor
      let own? := elements.findSome? fun element => match element with
        | .member false (.method .method (.fixed "constructor") f) => some f
        | _ => none
      let lambda := match own? with
        | some f => f.withRole role
        | none =>
            if parent.isSome then
              .mk "" role .plain [] (some (.place (.name "args")))
                [.evaluate (.superCall [.spread (.name "args")])] [] source
            else .mk "" role .plain [] none [] [] source
      let lambda := match lambda with
        | .mk _ role style parameters rest body hoisted _ =>
            Lambda.mk "" role style parameters rest body hoisted source
      let ref ← allocate (.ofKind (.closure ⟨lambda, inner, some proto, []⟩)
        (some (ancestor.getD Place.functionProto)))
      let v := Value.object ref
      define ref (.name "length") (.data (.number (Float.ofNat lambda.arity)) false false true)
      define ref (.name "name") (.data (.text (name.getD "")) false false true)
      define ref (.name "prototype") (.data (.object proto) false false false)
      define proto (.name "constructor") (.quiet v)
      let later ← elements.filterMapM fun element => do
        match element with
        | .member false (.method .method (.fixed "constructor") _) => return none
        | .member isStatic (.method kind key f) => do
            let key ← r.keyOf inner key
            defineMethod inner (if isStatic then ref else proto) kind key f false
            return none
        | .member _ _ => return none
        | .field isStatic key value => do
            let key ← r.keyOf inner key
            return some (isStatic, some key, value)
        | .block body => return some (true, none, some body)
      let fields := later.filterMap fun (isStatic, key, value) =>
        if isStatic then none else key.map (·, value)
      update ref fun o => match o.kind with
        | .closure f => { o with kind := .closure { f with fields := fields } }
        | _ => o
      name.forM fun name => declare inner ⟨name, some v, true⟩
      later.forM fun (isStatic, key, value) => do
        if isStatic then
          match key with
          | some key => r.addFields inner ref ref [(key, value)]
          | none =>
              match value with
              | some f => discard (r.call (← newFunction inner f "" (some ref)) v [])
              | none => return
      return v

def evaluateUnary (r : Recur) (scope : Nat) (operator : UnaryOperator) (e : Expression) :
    Action Value := do
  match operator, e with
  | .typeOf, .name x =>
      match ← binding? scope x, ← slot? Place.globalObject (.name x) with
      | none, none => return .text "undefined"
      | _, _ => return .text (← typeName (← r.readName scope x))
  | _, _ => r.operateOne operator (← r.evaluate scope e)

def evaluateOnce (r : Recur) (scope : Nat) (e : Expression) : Action Value := do
  match e with
  | .undefined => return .undefined
  | .null => return .null
  | .boolean b => return .boolean b
  | .number x => return .number x
  | .bigint n => return .bigint n
  | .text s => return .text s
  | .matcher source flags => do
      let v ← make (.matcher source flags) Place.matcherProto
      match v with
      | .object ref => define ref (.name "lastIndex") (.data (.number 0) true false false)
      | _ => return v
      return v
  | .name x => r.readName scope x
  | .self => kept scope Scope.self
  | .newTarget => kept scope Scope.target
  | .template first rest => return .text (first ++ (← r.templateText scope rest))
  | .tagged tag cooked raw values => do
      let (f, this) ← r.calleeOf scope tag
      let texts ← templateTexts cooked raw
      r.call f this (texts :: (← r.argumentValues scope (values.map .one)))
  | .list items => do
      let values ← r.itemValues scope items
      make (.array values.toArray) Place.arrayProto
  | .record members => do
      let ref ← newRecord
      members.forM (r.addMember scope ref)
      return .object ref
  | .function f => newNamedFunction scope f
  | .classOf c => r.evaluateClass scope c
  | .unary operator operand => r.evaluateUnary scope operator operand
  | .delete operand => r.deleteFrom scope operand
  | .update after amount place => do
      let access ← r.access scope place
      let (old, new) ← r.stepped amount (← access.read)
      access.write new
      return if after then new else old
  | .binary operator left right => do
      let a ← r.evaluate scope left
      let b ← r.evaluate scope right
      r.operate operator a b
  | .shortcut operator left right => do
      let v ← r.evaluate scope left
      if stopsAt operator v then return v else r.evaluate scope right
  | .assign place value => r.evaluateAssign scope place value
  | .assignWith operator place value => do
      let access ← r.access scope place
      let old ← access.read
      let new ← r.operate operator old (← r.evaluate scope value)
      access.write new
      return new
  | .assignUnless operator place value => do
      let access ← r.access scope place
      let old ← access.read
      if stopsAt operator old then return old
      else
        let new ← r.evaluateNamed scope (nameOfPlace (.place place)) value
        access.write new
        return new
  | .conditional test yes no => do
      if truthy (← r.evaluate scope test) then r.evaluate scope yes else r.evaluate scope no
  | .call callee optional arguments => do
      let (f, this) ← r.calleeOf scope callee
      if optional && isNullish f then throw .skipped
      r.call f this (← r.argumentValues scope arguments)
  | .construct callee arguments => do
      let f ← r.evaluate scope callee
      r.construct f (← r.argumentValues scope arguments) f
  | .property o optional key => do
      let v ← r.linkObject scope o optional
      r.getHidden v (← r.keyOf scope key)
  | .chain links =>
      tryCatch (r.evaluate scope links) fun
        | .skipped => return .undefined
        | e => throw e
  | .superProperty key => r.superGet scope key
  | .superCall arguments => r.constructParent scope arguments
  | .sequence first second => do
      discard (r.evaluate scope first)
      r.evaluate scope second
  | .await promise => do Promise.await r (← r.evaluate scope promise)
  | .yield delegates value => do
      let v ← r.evaluate scope value
      if delegates then (← r.toList v).forM yieldValue else yieldValue v
      return .undefined

end Recur

end ScriptConsole.Engine
