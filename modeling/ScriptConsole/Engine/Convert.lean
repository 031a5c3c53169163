import ScriptConsole.Engine.Heap

/-!
Reading and writing properties, and turning values into others: this may run code that the script
gave, for accessors and for the conversions of objects. -/
namespace ScriptConsole.Engine
open Action

def typeName : Value → Action String
  | .undefined => return "undefined"
  | .null => return "object"
  | .boolean _ => return "boolean"
  | .number _ => return "number"
  | .bigint _ => return "bigint"
  | .text _ => return "string"
  | .symbol _ => return "symbol"
  | .object ref => return if (← object ref).isCallable then "function" else "object"

def truthy : Value → Bool
  | .undefined | .null => false
  | .boolean b => b
  | .number x => !(x.isNaN || x == 0)
  | .bigint n => n != 0
  | .text s => s != ""
  | .symbol _ | .object _ => true

def isNullish : Value → Bool
  | .undefined | .null => true
  | _ => false

def isObject : Value → Bool
  | .object _ => true
  | _ => false

namespace Recur

def read (r : Recur) (this : Value) : Option Slot → Action Value
  | none => return .undefined
  | some (.data v ..) => return v
  | some (.accessor getter ..) =>
      match getter with
      | .undefined => return .undefined
      | _ => r.call getter this []

def protoOf? : Value → Option Nat
  | .boolean _ => some Place.booleanProto
  | .number _ => some Place.numberProto
  | .bigint _ => some Place.bigintProto
  | .text _ => some Place.stringProto
  | .symbol _ => some Place.symbolProto
  | _ => none

def get (r : Recur) (v : Value) (key : Key) : Action Value := do
  match v with
  | .object ref => r.read v (← slot? ref key)
  | .undefined => mistyped ("cannot read property '" ++ key.describe ++ "' of undefined")
  | .null => mistyped ("cannot read property '" ++ key.describe ++ "' of null")
  | .text s =>
      match (Obj.ofKind (.wrapped (.text s)) none).slot? key with
      | some slot => r.read v (some slot)
      | none => r.read v (← slot? Place.stringProto key)
  | _ =>
      match protoOf? v with
      | some proto => r.read v (← slot? proto key)
      | none => return .undefined

def getNamed (r : Recur) (v : Value) (name : String) : Action Value := r.get v (.name name)

def setLength (ref : Nat) (items : Array (Option Value)) (length : Value) : Action Unit := do
  match length with
  | .number x =>
      if !Numeral.isWhole x || x < 0 || 4294967295 < x then fail .range "invalid array length"
      let n := x.toUInt64.toNat
      if n ≤ items.size then update ref fun o => { o with kind := .array (items.take n) }
      else if n ≤ items.size + Obj.maxGap then
        update ref fun o =>
          { o with kind := .array (items ++ Array.replicate (n - items.size) none) }
      else fail .internal "out of memory"
  | _ => fail .range "invalid array length"

def set (r : Recur) (v : Value) (key : Key) (x : Value) : Action Unit := do
  match v with
  | .undefined => mistyped ("cannot set property '" ++ key.describe ++ "' of undefined")
  | .null => mistyped ("cannot set property '" ++ key.describe ++ "' of null")
  | .object ref =>
      let o ← object ref
      let readOnly {α : Type} : Action α := mistyped ("'" ++ key.describe ++ "' is read-only")
      let through (setter : Value) : Action Unit := do
        match setter with
        | .undefined => mistyped "no setter for property"
        | _ => discard (r.call setter v [x])
      match o.kind, o.slot? key with
      | .array items, some (.data _ writable false _) =>
          if writable then setLength ref items x else readOnly
      | _, some (.data _ writable enumerable configurable) =>
          if writable then define ref key (.data x writable enumerable configurable)
          else readOnly
      | _, some (.accessor _ setter ..) => through setter
      | _, none =>
          match ← slot? ref key with
          | some (.accessor _ setter ..) => through setter
          | some (.data _ false ..) => readOnly
          | _ =>
              if o.extensible then define ref key (.ordinary x)
              else mistyped "object is not extensible"
  | _ =>
      match protoOf? v with
      | some proto =>
          match ← slot? proto key with
          | some (.accessor _ setter ..) => discard (r.call setter v [x])
          | _ => mistyped "not an object"
      | none => mistyped "not an object"

def has (v : Value) (key : Key) : Action Bool := do
  match v with
  | .object ref => return (← slot? ref key).isSome
  | _ => return false

def invoke (r : Recur) (v : Value) (key : Key) (arguments : List Value) : Action Value := do
  r.call (← r.get v key) v arguments

inductive Hint
  | any | number | text
  deriving DecidableEq

def primitiveBy (r : Recur) (v : Value) : List String → Action Value
  | [] => mistyped "toPrimitive"
  | name :: rest => do
      let method ← r.getNamed v name
      if ← isCallable method then
        let result ← r.call method v []
        if isObject result then primitiveBy r v rest else return result
      else primitiveBy r v rest

def toPrimitive (r : Recur) (hint : Hint) (v : Value) : Action Value := do
  match v with
  | .object _ =>
      let own ← r.get v (.symbol Symbol.toPrimitive)
      if isNullish own then
        r.primitiveBy v (if hint = .text then ["toString", "valueOf"]
          else ["valueOf", "toString"])
      else
        let word := match hint with
          | .any => "default"
          | .number => "number"
          | .text => "string"
        let result ← r.call own v [.text word]
        if isObject result then mistyped "toPrimitive" else return result
  | _ => return v

def textOf : Value → Action String
  | .undefined => return "undefined"
  | .null => return "null"
  | .boolean b => return if b then "true" else "false"
  | .number x => return Numeral.text x
  | .bigint n => return toString n
  | .text s => return s
  | .symbol _ => mistyped "cannot convert symbol to string"
  | .object _ => return ""

def toText (r : Recur) (v : Value) : Action String := do
  textOf (← r.toPrimitive .text v)

def numberOf : Value → Action Float
  | .undefined => return Numeral.nan
  | .null => return 0
  | .boolean b => return if b then 1 else 0
  | .number x => return x
  | .bigint _ => mistyped "cannot convert bigint to number"
  | .text s => return Numeral.read s
  | .symbol _ => mistyped "cannot convert symbol to number"
  | .object _ => return Numeral.nan

def toNumber (r : Recur) (v : Value) : Action Float := do
  numberOf (← r.toPrimitive .number v)

def toNumeric (r : Recur) (v : Value) : Action (Float ⊕ Int) := do
  match ← r.toPrimitive .number v with
  | .bigint n => return .inr n
  | w => return .inl (← numberOf w)

def toWhole (r : Recur) (v : Value) : Action Int := do
  let x ← r.toNumber v
  if x.isNaN then return 0
  else if x.isInf then return if x < 0 then -(Decimal.signBit : Int) else Decimal.signBit
  else return Numeral.whole x

def toKey (r : Recur) (v : Value) : Action Key := do
  match ← r.toPrimitive .text v with
  | .symbol s => return .symbol s
  | w => return .name (← textOf w)

def toObject (v : Value) : Action Nat := do
  match v with
  | .object ref => return ref
  | _ =>
      match protoOf? v with
      | some proto => allocate (.ofKind (.wrapped v) (some proto))
      | none => mistyped "cannot convert to object"

def lengthOf (r : Recur) (v : Value) : Action Nat := do
  return (← r.toWhole (← r.getNamed v "length")).toNat

def itemsOf (r : Recur) (v : Value) : Action (List Value) := do
  match v with
  | .object ref =>
      match (← object ref).kind with
      | .array items => return items.toList.map (·.getD .undefined)
      | _ =>
          (List.range (← r.lengthOf v)).mapM fun n => r.get v (Key.ofNat n)
  | .text s => return (Units.ofString s).map fun u => .text (Units.toString [u])
  | _ => return []

def overArray {σ : Type} (ref : Nat) (action : σ → Value → Action (ForInStep σ)) (start : σ) :
    Action σ := do
  let (_, s) ← loop (fun (n, s) => do
    match (← object ref).kind with
    | .array items =>
        match items[n]? with
        | none => return .done (n, s)
        | some item =>
            match ← action s (item.getD .undefined) with
            | .done s => return .done (n + 1, s)
            | .yield s => return .yield (n + 1, s)
    | _ => return .done (n, s)) unbounded (0, start)
  return s

def overEntries {σ : Type} (ref : Nat) (action : σ → Value × Value → Action (ForInStep σ))
    (start : σ) : Action σ := do
  let (_, s) ← loop (fun (n, s) => do
    match (← object ref).kind with
    | .keyed entries _ =>
        match entries[n]? with
        | none => return .done (n, s)
        | some none => return .yield (n + 1, s)
        | some (some entry) =>
            match ← action s entry with
            | .done s => return .done (n + 1, s)
            | .yield s => return .yield (n + 1, s)
    | _ => return .done (n, s)) unbounded (0, start)
  return s

def overIterator {σ : Type} (r : Recur) (iterator : Value)
    (action : σ → Value → Action (ForInStep σ)) (start : σ) : Action σ := do
  let next ← r.getNamed iterator "next"
  let close : Action Unit := do
    let method ← r.getNamed iterator "return"
    if !isNullish method then discard (r.call method iterator [])
  loop (fun s => do
    step
    let result ← r.call next iterator []
    if !isObject result then mistyped "iterator must return an object"
    if truthy (← r.getNamed result "done") then return .done s
    else
      let v ← r.getNamed result "value"
      let after ← tryCatch (action s v) fun e => do
        tryCatch close fun _ => return
        throw e
      match after with
      | .done s =>
          close
          return .done s
      | .yield s => return .yield s) unbounded start

def iterate {σ : Type} (r : Recur) (v : Value) (action : σ → Value → Action (ForInStep σ))
    (start : σ) : Action σ := do
  let byMethod (v : Value) : Action σ := do
    if isNullish v then mistyped "value is not iterable"
    let method ← r.get v (.symbol Symbol.iterator)
    if ← isCallable method then r.overIterator (← r.call method v []) action start
    else mistyped "value is not iterable"
  match v with
  | .text s => overList action (s.toList.map fun c => .text (String.singleton c)) start
  | .object ref =>
      let o ← object ref
      match o.kind, o.proto == some Place.arrayProto with
      | .array _, true => overArray ref action start
      | .keyed _ pairs, _ =>
          overEntries ref (fun s (k, x) => do
            if pairs then action s (← newArray [k, x]) else action s k) start
      | _, _ => byMethod v
  | _ => byMethod v

def toList (r : Recur) (v : Value) : Action (List Value) := do
  return (← r.iterate v (fun found x => return .yield (x :: found)) []).reverse

end Recur

end ScriptConsole.Engine
