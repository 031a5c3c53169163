import ScriptConsole.Engine.Library.Sequence

/-!
Promises as scripts use them. The functions that promises give to scripts hold what they need; they
have the first numbers of the library. -/
namespace ScriptConsole.Engine
open Action

namespace Deferred

def heldPromise (use : Use) (n : Nat) : Nat :=
  match use.heldAt n with
  | .object ref => ref
  | _ => 0

def settle (fulfils : Bool) : Native := fun r use => do
  let promise := heldPromise use 0
  if ← Promise.isPending promise then
    if fulfils then Promise.resolve r promise (use.argument 0)
    else Promise.reject promise (use.argument 0)
  return .undefined

def gathering : Nat := 3
def finishing : Nat := 4
def repeating : Nat := 5

def mode (word : String) : Value := .text word

def kept (word : String) (v : Value) : Action Value := do
  let record (status name : String) : Action Value := do
    let ref ← newRecord
    define ref (.name "status") (.ordinary (.text status))
    define ref (.name name) (.ordinary v)
    return .object ref
  match word with
  | "settled" => record "fulfilled" "value"
  | "failed" => record "rejected" "reason"
  | _ => return v

def finish (r : Recur) (word : String) (promise : Nat) (results : Value) : Action Unit := do
  if word == "any" then
    let e ← newError .aggregate ""
    match e with
    | .object ref => define ref (.name "errors") (.quiet results)
    | _ => pure ()
    Promise.reject promise e
  else Promise.resolve r promise results

/- Keeps one result; the last one settles the promise of all. -/
def gather : Native := fun r use => do
  match use.held with
  | [.text word, .object promise, .object results, .object left, .number n] =>
      define results (Key.ofNat n.toUInt64.toNat) (.ordinary (← kept word (use.argument 0)))
      let count ← r.toWhole (← r.getNamed (.object left) "count")
      define left (.name "count") (.ordinary (.number (Float.ofInt (count - 1))))
      if count = 1 && (← Promise.isPending promise) then finish r word promise (.object results)
      return .undefined
  | _ => return .undefined

def final : Native := fun r use => do
  match use.held with
  | [f, .boolean rejected] =>
      let result ← r.call f .undefined []
      let again ← make (.native repeating [use.argument 0, .boolean rejected] false)
        Place.functionProto
      return .object (← Promise.andThen (← Promise.ofValue r result) again .undefined)
  | _ => return .undefined

def again : Native := fun _ use => do
  match use.held with
  | [v, .boolean true] => throw (.thrown v)
  | v :: _ => return v
  | [] => return .undefined

def first : List Native :=
  [settle true, settle false, Callable.bound, gather, final, again]

/- Waits for several promises; the words say what becomes of the good and of the bad ones. -/
def combine (good bad : Option String) : Native := fun r use => do
  let promise ← Promise.pending
  let (resolve, reject) ← Promise.settlers promise
  let items ← r.toList (use.argument 0)
  let results ← newArray (items.map fun _ => .undefined)
  let left ← newRecord
  define left (.name "count") (.ordinary (.number (Float.ofNat items.length)))
  let collector (word : Option String) (otherwise : Value) (n : Nat) : Action Value :=
    match word with
    | some word => make (.native gathering
        [.text word, .object promise, results, .object left, .number (Float.ofNat n)] false)
        Place.functionProto
    | none => return otherwise
  items.zipIdx.forM fun (item, n) => do
    let each ← Promise.ofValue r item
    discard (Promise.andThen each (← collector good resolve n) (← collector bad reject n))
  if items.isEmpty then
    match good, bad with
    | none, none => pure ()
    | some word, _ | none, some word => finish r word promise results
  return .object promise

def promiseOf (v : Value) : Action Nat := do
  match v with
  | .object ref =>
      match (← object ref).kind with
      | .promise _ => return ref
      | _ => mistyped "not an object"
  | _ => mistyped "not an object"

def shelf : Shelf :=
  .constructor "Promise" 1 true
    (fun r use => do
      if !isObject use.target then mistyped "constructor requires 'new'"
      let f ← Sequence.callback use 0
      let ref ← allocate (.ofKind (.promise (.pending []))
        (some (← r.protoFor use.target Place.promiseProto)))
      let (resolve, reject) ← Promise.settlers ref
      Promise.attempt (discard (r.call f .undefined [resolve, reject]))
        fun v => discard (r.call reject .undefined [v])
      return .object ref)
    Place.promiseProto none
    [.function "resolve" 1 fun r use => return .object (← Promise.ofValue r (use.argument 0)),
      .function "reject" 1 fun _ use => do
        let promise ← Promise.pending
        Promise.reject promise (use.argument 0)
        return .object promise,
      .function "all" 1 (combine (some "all") none),
      .function "allSettled" 1 (combine (some "settled") (some "failed")),
      .function "any" 1 (combine none (some "any")),
      .missing "try",
      .function "race" 1 (combine none none),
      .function "withResolvers" 0 fun _ _ => do
        let promise ← Promise.pending
        let (resolve, reject) ← Promise.settlers promise
        let ref ← newRecord
        define ref (.name "promise") (.ordinary (.object promise))
        define ref (.name "resolve") (.ordinary resolve)
        define ref (.name "reject") (.ordinary reject)
        return .object ref]
    [.function "then" 2 fun _ use => do
        let promise ← promiseOf use.this
        return .object (← Promise.andThen promise (use.argument 0) (use.argument 1)),
      .function "catch" 1 fun r use => do
        r.invoke use.this (.name "then") [.undefined, use.argument 0],
      .function "finally" 1 fun r use => do
        let f := use.argument 0
        if ← isCallable f then
          let handler (rejected : Bool) : Action Value :=
            make (.native finishing [f, .boolean rejected] false) Place.functionProto
          r.invoke use.this (.name "then") [← handler false, ← handler true]
        else r.invoke use.this (.name "then") [f, f],
      .constant (.symbol Symbol.toStringTag) (.text "Promise")]

end Deferred

end ScriptConsole.Engine
