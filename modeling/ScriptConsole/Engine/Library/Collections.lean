import ScriptConsole.Engine.Library.Sequence

/-!
Collections of values by keys, in the order in which the keys came. -/
namespace ScriptConsole.Engine
open Action

namespace Keyed

def entriesOf (pairs : Bool) (v : Value) : Action (Nat × Array (Option (Value × Value))) := do
  let complaint := if pairs then "not a Map" else "not a Set"
  match v with
  | .object ref =>
      match (← object ref).kind with
      | .keyed entries kind => if kind == pairs then return (ref, entries) else mistyped complaint
      | _ => mistyped complaint
  | _ => mistyped complaint

def index? (entries : Array (Option (Value × Value))) (key : Value) : Option Nat :=
  entries.findIdx? fun entry => entry.any fun (k, _) => sameValue k key

def store (ref : Nat) (entries : Array (Option (Value × Value))) (pairs : Bool) : Action Unit :=
  update ref fun o => { o with kind := .keyed entries pairs }

def normal : Value → Value
  | .number x => .number (if x == 0 then 0 else x)
  | v => v

def put (pairs : Bool) (this key v : Value) : Action Unit := do
  let (ref, entries) ← entriesOf pairs this
  let entry := some (normal key, v)
  match index? entries key with
  | some n => store ref (entries.setIfInBounds n entry) pairs
  | none => store ref (entries.push entry) pairs

def present (entries : Array (Option (Value × Value))) : List (Value × Value) :=
  entries.toList.filterMap id

def shared (pairs : Bool) : List Content := [
  .function "has" 1 fun _ use => do
    let (_, entries) ← entriesOf pairs use.this
    return .boolean (index? entries (use.argument 0)).isSome,
  .function "delete" 1 fun _ use => do
    let (ref, entries) ← entriesOf pairs use.this
    match index? entries (use.argument 0) with
    | some n =>
        store ref (entries.setIfInBounds n none) pairs
        return .boolean true
    | none => return .boolean false,
  .function "clear" 0 fun _ use => do
    let (ref, entries) ← entriesOf pairs use.this
    store ref (entries.map fun _ => none) pairs
    return .undefined,
  .getter (.name "size") fun _ use => do
    let (_, entries) ← entriesOf pairs use.this
    return .number (Float.ofNat (present entries).length),
  .function "forEach" 1 fun r use => do
    let (ref, _) ← entriesOf pairs use.this
    let f ← Sequence.callback use 0
    Recur.overEntries ref (fun _ (k, v) => do
      discard (r.call f (use.argument 1) [v, k, use.this])
      return .yield ()) ()
    return .undefined]

def listed (name : String) (pairs : Bool) (f : Value × Value → Action Value) : Content :=
  .function name 0 fun _ use => do
    let (_, entries) ← entriesOf pairs use.this
    Sequence.cursor (← (present entries).mapM f)

def pair (entry : Value × Value) : Action Value := newArray [entry.1, entry.2]

def construct (pairs : Bool) (proto : Nat) : Native := fun r use => do
  if !isObject use.target then mistyped "constructor requires 'new'"
  let this ← make (.keyed #[] pairs) (← r.protoFor use.target proto)
  if !isNullish (use.argument 0) then
    r.iterate (use.argument 0) (fun _ v => do
      if pairs then
        if !isObject v then mistyped "not an object"
        put pairs this (← r.getNamed v "0") (← r.getNamed v "1")
      else put pairs this v v
      return .yield ()) ()
  return this

def maps : Shelf :=
  .constructor "Map" 0 true (construct true Place.mapProto) Place.mapProto none
    [.missing "groupBy"]
    ([.function "set" 2 fun _ use => do
        put true use.this (use.argument 0) (use.argument 1)
        return use.this,
      .function "get" 1 fun _ use => do
        let (_, entries) ← entriesOf true use.this
        return match index? entries (use.argument 0) with
          | some n => (((entries[n]?).join).map (·.2)).getD .undefined
          | none => .undefined] ++
      shared true ++
      [listed "values" true fun (_, v) => return v, listed "keys" true fun (k, _) => return k,
        listed "entries" true pair, .alias (.symbol Symbol.iterator) "entries",
        .constant (.symbol Symbol.toStringTag) (.text "Map")])

def sets : Shelf :=
  .constructor "Set" 0 true (construct false Place.setProto) Place.setProto none
    [.missing "groupBy"]
    ([.function "add" 1 fun _ use => do
        put false use.this (use.argument 0) (use.argument 0)
        return use.this] ++
      shared false ++
      [.missing "isDisjointFrom", .missing "isSubsetOf", .missing "isSupersetOf",
        .missing "intersection", .missing "difference", .missing "symmetricDifference",
        .missing "union",
        listed "values" false fun (_, v) => return v, .alias (.name "keys") "values",
        .alias (.symbol Symbol.iterator) "values", listed "entries" false pair,
        .constant (.symbol Symbol.toStringTag) (.text "Set")])

end Keyed

end ScriptConsole.Engine
