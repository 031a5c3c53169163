import ScriptConsole.Engine.Convert

/-!
Promises: settling them, what is done then, and the work that waits for a script to end. -/
namespace ScriptConsole.Engine
open Action

namespace Native

/-! The library functions that settle a promise they hold have these numbers. -/

def resolving : Nat := 0
def rejecting : Nat := 1

end Native

namespace Promise

def enqueue (job : Job) : Action Unit := modify fun m => { m with jobs := m.jobs.push job }

def pending : Action Nat :=
  allocate (.ofKind (.promise (.pending [])) (some Place.promiseProto))

def setFate (promise : Nat) (fate : Fate) : Action Unit :=
  update promise fun o => { o with kind := .promise fate }

def reactionsOf (promise : Nat) : Action (List Reaction) := do
  match (← object promise).kind with
  | .promise (.pending reactions) => return reactions
  | _ => return []

def isPending (promise : Nat) : Action Bool := do
  match (← object promise).kind with
  | .promise (.pending _) => return true
  | _ => return false

def fulfill (promise : Nat) (v : Value) : Action Unit := do
  let reactions ← reactionsOf promise
  setFate promise (.fulfilled v)
  reactions.forM fun reaction => enqueue (.react reaction.fulfilled v false reaction.derived)

def reject (promise : Nat) (v : Value) : Action Unit := do
  let reactions ← reactionsOf promise
  setFate promise (.rejected v)
  reactions.forM fun reaction => enqueue (.react reaction.rejected v true reaction.derived)

def attempt {α : Type} (action : Action α) (handler : Value → Action α) : Action α :=
  tryCatch action fun
    | .thrown v => handler v
    | other => throw other

/- Settles a promise as a value is; what can be waited for is waited for. -/
def resolve (r : Recur) (promise : Nat) (v : Value) : Action Unit := do
  match v with
  | .object ref =>
      if ref = promise then
        reject promise (← newError .type "promise self resolution")
      else
        attempt (do
          let method ← r.getNamed v "then"
          if ← isCallable method then enqueue (.adopt promise v method)
          else fulfill promise v) (reject promise)
  | _ => fulfill promise v

def settlers (promise : Nat) : Action (Value × Value) := do
  let settler (index : Nat) : Action Value :=
    make (.native index [.object promise] false) Place.functionProto
  return (← settler Native.resolving, ← settler Native.rejecting)

def andThen (promise : Nat) (fulfilled rejected : Value) : Action Nat := do
  let derived ← pending
  match (← object promise).kind with
  | .promise (.pending reactions) =>
      setFate promise (.pending (reactions ++ [⟨fulfilled, rejected, derived⟩]))
  | .promise (.fulfilled v) => enqueue (.react fulfilled v false derived)
  | .promise (.rejected v) => enqueue (.react rejected v true derived)
  | _ => mistyped "not an object"
  return derived

def ofValue (r : Recur) (v : Value) : Action Nat := do
  let fresh : Action Nat := do
    let promise ← pending
    resolve r promise v
    return promise
  match v with
  | .object ref =>
      match (← object ref).kind with
      | .promise _ => return ref
      | _ => fresh
  | _ => fresh

def run (r : Recur) : Job → Action Unit
  | .react handler argument rejected derived => do
      if ← isCallable handler then
        attempt (do resolve r derived (← r.call handler .undefined [argument]))
          (reject derived)
      else if rejected then reject derived argument
      else fulfill derived argument
  | .adopt promise thenable method => do
      let (resolve, reject) ← settlers promise
      attempt (discard (r.call method thenable [resolve, reject]))
        fun v => discard (r.call reject .undefined [v])
  | .call f => discard (r.call f .undefined [])

def runWhile (r : Recur) (wanted : Action Bool) : Action Unit :=
  loop (fun _ => do
    if ← wanted then
      match (← get).jobs[0]? with
      | none => return .done ()
      | some job =>
          modify fun m => { m with jobs := m.jobs.extract 1 m.jobs.size }
          tryCatch (run r job) fun _ => return
          return .yield ()
    else return .done ()) unbounded ()

/- The value of a settled promise; waits for it if there is work to wait for. -/
def await (r : Recur) (v : Value) : Action Value := do
  let promise ← ofValue r v
  runWhile r (isPending promise)
  match (← object promise).kind with
  | .promise (.fulfilled v) => return v
  | .promise (.rejected v) => throw (.thrown v)
  | _ => throw .sated

end Promise

end ScriptConsole.Engine
