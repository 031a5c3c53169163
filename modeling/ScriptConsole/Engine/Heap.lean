import ScriptConsole.Engine.Numeral
import ScriptConsole.Engine.Value
import ScriptConsole.Text.Units

/-!
The objects and scopes of a machine: making them, finding and changing their properties without
running any code, and the errors that scripts see. -/
namespace ScriptConsole.Engine

namespace Place

/-! Every machine starts with these objects. -/

def objectProto : Nat := 0
def functionProto : Nat := 1
def arrayProto : Nat := 2
def stringProto : Nat := 3
def numberProto : Nat := 4
def booleanProto : Nat := 5
def symbolProto : Nat := 6
def bigintProto : Nat := 7
def promiseProto : Nat := 8
def mapProto : Nat := 9
def setProto : Nat := 10
def matcherProto : Nat := 11
def dateProto : Nat := 12
def iteratorProto : Nat := 13
def cursorProto : Nat := 14
def globalObject : Nat := 15
def errorProto : Nat := 16
def count : Nat := 25

end Place

namespace Symbol

def iterator : Symbol := ⟨0, some "Symbol.iterator"⟩
def toPrimitive : Symbol := ⟨1, some "Symbol.toPrimitive"⟩
def toStringTag : Symbol := ⟨2, some "Symbol.toStringTag"⟩
def hasInstance : Symbol := ⟨3, some "Symbol.hasInstance"⟩

def known : List (String × Symbol) :=
  [("toPrimitive", toPrimitive), ("iterator", iterator), ("match", ⟨4, some "Symbol.match"⟩),
    ("matchAll", ⟨5, some "Symbol.matchAll"⟩), ("replace", ⟨6, some "Symbol.replace"⟩),
    ("search", ⟨7, some "Symbol.search"⟩), ("split", ⟨8, some "Symbol.split"⟩),
    ("toStringTag", toStringTag),
    ("isConcatSpreadable", ⟨9, some "Symbol.isConcatSpreadable"⟩),
    ("hasInstance", hasInstance), ("species", ⟨10, some "Symbol.species"⟩),
    ("unscopables", ⟨11, some "Symbol.unscopables"⟩),
    ("asyncIterator", ⟨12, some "Symbol.asyncIterator"⟩)]

def describe (s : Symbol) : String := "Symbol(" ++ s.description.getD "" ++ ")"

end Symbol

inductive ErrorKind
  | general | eval | range | reference | grammar | type | uri | internal | aggregate
  deriving DecidableEq, Repr

namespace ErrorKind

def all : List ErrorKind :=
  [.general, .eval, .range, .reference, .grammar, .type, .uri, .internal, .aggregate]

def name : ErrorKind → String
  | general => "Error"
  | eval => "EvalError"
  | range => "RangeError"
  | reference => "ReferenceError"
  | grammar => "SyntaxError"
  | type => "TypeError"
  | uri => "URIError"
  | internal => "InternalError"
  | aggregate => "AggregateError"

def proto (kind : ErrorKind) : Nat := Place.errorProto + all.idxOf kind

end ErrorKind

namespace Key

def describe : Key → String
  | name s => s
  | symbol s => s.description.getD ""
  | hidden s => s

def index? : Key → Option Nat
  | name s =>
      match s.toList with
      | ['0'] => some 0
      | '0' :: _ | [] => none
      | digits => if digits.length ≤ 15 then Numeral.natural? 10 digits else none
  | _ => none

def ofNat (n : Nat) : Key := .name (Nat.repr n)

def toValue : Key → Value
  | name s => .text s
  | symbol s => .symbol s
  | hidden s => .text s

end Key

namespace Slot

def ordinary (v : Value) : Slot := .data v true true true

def quiet (v : Value) : Slot := .data v true false true

end Slot

namespace Obj

def ofKind (kind : Kind) (proto : Option Nat) : Obj := ⟨proto, kind, #[], true, false⟩

def isCallable (o : Obj) : Bool :=
  match o.kind with
  | .closure _ | .native .. => true
  | _ => false

def isArray (o : Obj) : Bool :=
  match o.kind with
  | .array _ => true
  | _ => false

def slot? (o : Obj) (key : Key) : Option Slot :=
  let own? : Option Slot := match o.kind with
    | .array items =>
        match key.index? with
        | some n => (items[n]?.join).map fun v => .data v (!o.frozen) true (!o.frozen)
        | none =>
            if key == .name "length" then
              some (.data (.number (Float.ofNat items.size)) (!o.frozen) false false)
            else none
    | .wrapped (.text s) =>
        match key.index? with
        | some n => (Units.at? s n).map fun u => .data (.text u) false true false
        | none =>
            if key == .name "length" then
              some (.data (.number (Float.ofNat (Units.length s))) false false false)
            else none
    | _ => none
  own? <|> (o.slots.find? (·.1 == key)).map (·.2)

def withSlot (o : Obj) (key : Key) (slot : Slot) : Obj :=
  match o.slots.findIdx? (·.1 == key) with
  | some n => { o with slots := o.slots.setIfInBounds n (key, slot) }
  | none => { o with slots := o.slots.push (key, slot) }

def maxGap : Nat := 1000000

def define (o : Obj) (key : Key) (slot : Slot) : Obj :=
  match o.kind, key.index?, slot with
  | .array items, some n, .data v _ _ _ =>
      if n < items.size then { o with kind := .array (items.setIfInBounds n (some v)) }
      else if n < items.size + maxGap then
        { o with kind := .array ((items ++ Array.replicate (n - items.size) none).push (some v)) }
      else o.withSlot key slot
  | _, _, _ => o.withSlot key slot

def withoutSlot (o : Obj) (key : Key) : Obj :=
  match o.kind, key.index? with
  | .array items, some n =>
      if n < items.size then { o with kind := .array (items.setIfInBounds n none) }
      else { o with slots := o.slots.filter (!·.1 == key) }
  | _, _ => { o with slots := o.slots.filter (!·.1 == key) }

/- The keys of an object's own properties: numbers in order, names and symbols as they came. -/
def keys (o : Obj) : List Key :=
  let own := o.slots.toList.map (·.1)
  let items : List Key := match o.kind with
    | .array items =>
        (items.toList.zipIdx.filter (·.1.isSome)).map fun (_, n) => Key.ofNat n
    | .wrapped (.text s) => (List.range (Units.length s)).map Key.ofNat
    | _ => []
  let lengths : List Key := match o.kind with
    | .array _ | .wrapped (.text _) => [.name "length"]
    | _ => []
  let numbered := (own.filterMap fun k => k.index?.map fun n => (n, k)).mergeSort
    fun a b => a.1 ≤ b.1
  let isName : Key → Bool
    | .name s => (Key.name s).index?.isNone
    | _ => false
  let isSymbol : Key → Bool
    | .symbol _ => true
    | _ => false
  items ++ numbered.map (·.2) ++ lengths ++ own.filter isName ++ own.filter isSymbol

end Obj

namespace Action

def allocate (o : Obj) : Action Nat :=
  modifyGet fun m => (m.heap.size, { m with heap := m.heap.push o })

def object (ref : Nat) : Action Obj := return (← get).heap.getD ref default

def update (ref : Nat) (f : Obj → Obj) : Action Unit :=
  modify fun m => { m with heap := m.heap.modify ref f }

def define (ref : Nat) (key : Key) (slot : Slot) : Action Unit :=
  update ref (·.define key slot)

def make (kind : Kind) (proto : Nat) : Action Value :=
  return .object (← allocate (.ofKind kind (some proto)))

def newRecord : Action Nat := allocate (.ofKind .plain (some Place.objectProto))

def newArray (items : List Value) : Action Value :=
  make (.array (items.map some).toArray) Place.arrayProto

def newError (kind : ErrorKind) (message : String) : Action Value := do
  let ref ← allocate (.ofKind .error (some kind.proto))
  define ref (.name "message") (.quiet (.text message))
  define ref (.name "stack") (.quiet (.text ""))
  return .object ref

def fail {α : Type} (kind : ErrorKind) (message : String) : Action α := do
  throw (.thrown (← newError kind message))

def mistyped {α : Type} (message : String) : Action α := fail .type message

def slotFrom? (heap : Array Obj) (key : Key) : (fuel ref : Nat) → Option Slot
  | 0, _ => none
  | fuel + 1, ref =>
      let o := heap.getD ref default
      match o.slot? key, o.proto with
      | some slot, _ => some slot
      | none, some parent => slotFrom? heap key fuel parent
      | none, none => none

def slot? (ref : Nat) (key : Key) : Action (Option Slot) :=
  return slotFrom? (← get).heap key 10000 ref

def inherits (heap : Array Obj) (ancestor : Nat) : (fuel ref : Nat) → Bool
  | 0, _ => false
  | fuel + 1, ref =>
      match (heap.getD ref default).proto with
      | some parent => parent = ancestor || inherits heap ancestor fuel parent
      | none => false

def isCallable : Value → Action Bool
  | .object ref => return (← object ref).isCallable
  | _ => return false

def newScope (parent : Nat) : Action Nat :=
  modifyGet fun m => (m.scopes.size, { m with scopes := m.scopes.push ⟨[], some parent⟩ })

def declare (scope : Nat) (binding : Binding) : Action Unit :=
  modify fun m => { m with
    scopes := m.scopes.modify scope fun s =>
      { s with bindings := binding :: s.bindings.filter (·.name != binding.name) } }

def bindingFrom? (scopes : Array Scope) (name : String) :
    (fuel scope : Nat) → Option (Nat × Binding)
  | 0, _ => none
  | fuel + 1, scope =>
      let s := scopes.getD scope default
      match s.bindings.find? (·.name == name), s.parent with
      | some binding, _ => some (scope, binding)
      | none, some parent => bindingFrom? scopes name fuel parent
      | none, none => none

def binding? (scope : Nat) (name : String) : Action (Option (Nat × Binding)) := do
  let m ← get
  return bindingFrom? m.scopes name m.scopes.size scope

def stepsBetweenLooks : Nat := 10000

def step : Action Unit := do
  let m ← get
  if m.patience ≤ 1 then
    set { m with patience := stepsBetweenLooks }
    if m.cancelled then throw .interrupted
  else set { m with patience := m.patience - 1 }

def loop {σ : Type} (action : σ → Action (ForInStep σ)) : (bound : Nat) → σ → Action σ
  | 0, s => return s
  | bound + 1, s => do
      match ← action s with
      | .done s => return s
      | .yield s => loop action bound s

def unbounded : Nat := 4611686018427387904

def overList {α σ : Type} (action : σ → α → Action (ForInStep σ)) : List α → σ → Action σ
  | [], s => return s
  | x :: rest, s => do
      match ← action s x with
      | .done s => return s
      | .yield s => overList action rest s

end Action

end ScriptConsole.Engine
