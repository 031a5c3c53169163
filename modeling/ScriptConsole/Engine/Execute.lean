import ScriptConsole.Engine.Evaluate

/-!
What statements do, and scripts as a whole. Depth is bounded: a term inside a term, and a call, is
worked out at one depth less. -/
namespace ScriptConsole.Engine
open Action

namespace Flow

def orValue (flow : Flow) (last : Option Value) : Flow :=
  match flow with
  | .normal v => .normal (v <|> last)
  | .leave label v => .leave label (v <|> last)
  | .next label v => .next label (v <|> last)
  | .answer v => .answer v

end Flow

def afterBody (labels : List String) (last : Value) : Flow → ForInStep (Value × Option Flow)
  | .normal v => .yield (v.getD last, none)
  | .next none v => .yield (v.getD last, none)
  | .next (some label) v =>
      if labels.contains label then .yield (v.getD last, none)
      else .done (last, some (.next (some label) (v <|> some last)))
  | .leave none v => .done (last, some (.normal (v <|> some last)))
  | .leave label v => .done (last, some (.leave label (v <|> some last)))
  | .answer v => .done (last, some (.answer v))

def ofLoop : Value × Option Flow → Flow
  | (_, some flow) => flow
  | (last, none) => .normal (some last)

namespace Recur

def executeBlock (r : Recur) (scope : Nat) (body : List Statement) : Action Flow := do
  if (scopedNames body).isEmpty && (declaredFunctions body).isEmpty then
    r.executeAll scope body none
  else
    let inner ← newScope scope
    prepare inner body
    r.executeAll inner body none

def executeDeclare (r : Recur) (scope : Nat) (kind : Declaring) :
    List (Pattern × Option Expression) → Action Unit
  | [] => return
  | (p, e) :: rest => do
      let declares := kind != .hoisted
      match e, p with
      | some e, .place (.name x) => do
          r.bind scope declares p (← r.evaluateNamed scope x e)
      | some e, _ => do r.bind scope declares p (← r.evaluate scope e)
      | none, _ => if declares then r.bind scope declares p .undefined
      executeDeclare r scope kind rest

def executeLoop (r : Recur) (scope : Nat) (labels : List String) (late : Bool)
    (test : Expression) (body : Statement) : Action Flow := do
  let (_, ended) ← loop (fun (first, last, _) => do
    step
    let goOn ← if late && first then pure true else truthy <$> r.evaluate scope test
    if goOn then
      match afterBody labels last (← r.execute scope [] body) with
      | .done s => return .done (false, s)
      | .yield s => return .yield (false, s)
    else return .done (false, last, none)) unbounded (true, Value.undefined, none)
  return ofLoop ended

def copyScope (scope : Nat) : Action Nat :=
  modifyGet fun m =>
    (m.scopes.size, { m with scopes := m.scopes.push (m.scopes.getD scope default) })

def executeCount (r : Recur) (scope : Nat) (labels : List String) (start : Option Statement)
    (test advance : Option Expression) (body : Statement) : Action Flow := do
  let names := scopedNames start.toList
  let fresh := !names.isEmpty
  let outer ← if fresh then newScope scope else pure scope
  prepare outer start.toList
  match start with
  | some s => discard (r.execute outer [] s)
  | none => pure ()
  let first ← if fresh then copyScope outer else pure outer
  let (_, ended) ← loop (fun (inner, last, _) => do
    step
    let goOn ← match test with
      | some e => truthy <$> r.evaluate inner e
      | none => pure true
    if goOn then
      match afterBody labels last (← r.execute inner [] body) with
      | .done s => return .done (inner, s)
      | .yield s =>
          let inner ← if fresh then copyScope inner else pure inner
          match advance with
          | some e => discard (r.evaluate inner e)
          | none => pure ()
          return .yield (inner, s)
    else return .done (inner, last, none)) unbounded (first, Value.undefined, none)
  return ofLoop ended

def keysFrom (heap : Array Obj) : (fuel ref : Nat) → List String
  | 0, _ => []
  | fuel + 1, ref =>
      let o := heap.getD ref default
      let own := o.keys.filterMap fun key => match key with
        | .name s => if ((o.slot? key).map Slot.enumerable).getD false then some s else none
        | _ => none
      match o.proto with
      | some parent =>
          own ++ (keysFrom heap fuel parent).filter fun s => !(o.slot? (.name s)).isSome
      | none => own

def executeEach (r : Recur) (scope : Nat) (labels : List String) (keys : Bool)
    (kind : Option Declaring) (place : Pattern) (source : Expression) (body : Statement) :
    Action Flow := do
  let v ← r.evaluate scope source
  let fresh := kind == some .changeable || kind == some .constant
  let visit (s : Value × Option Flow) (x : Value) :
      Action (ForInStep (Value × Option Flow)) := do
    step
    let inner ← if fresh then newScope scope else pure scope
    if fresh then
      place.names.forM fun name => declare inner ⟨name, none, kind == some .constant⟩
    r.bind inner fresh place x
    return afterBody labels s.1 (← r.execute inner [] body)
  if keys then
    if isNullish v then return .normal (some .undefined)
    let ref ← toObject v
    let names := keysFrom (← getThe Machine).heap 10000 ref
    return ofLoop (← overList (fun s name => do
      if ← has (.object ref) (.name name) then visit s (.text name) else return .yield s)
      names (.undefined, none))
  else return ofLoop (← r.iterate v visit (.undefined, none))

/- The statements of a choice from the first case that is chosen; the default one comes last. -/
def choose (r : Recur) (scope : Nat) (v : Value) :
    List (Option Expression × List Statement) → Action (Option (List Statement))
  | [] => return none
  | (none, _) :: rest => choose r scope v rest
  | (some e, body) :: rest => do
      if same v (← r.evaluate scope e) then return some (body ++ rest.flatMap (·.2))
      else choose r scope v rest

def otherwise : List (Option Expression × List Statement) → List Statement
  | [] => []
  | (none, body) :: rest => body ++ rest.flatMap (·.2)
  | _ :: rest => otherwise rest

def executeChoose (r : Recur) (scope : Nat) (subject : Expression)
    (cases : List (Option Expression × List Statement)) : Action Flow := do
  let v ← r.evaluate scope subject
  let inner ← newScope scope
  prepare inner (cases.flatMap (·.2))
  let chosen ← r.choose inner v cases
  match ← r.executeAll inner (chosen.getD (otherwise cases)) none with
  | .leave none v => return .normal v
  | flow => return flow

def executeGuarded (r : Recur) (scope : Nat) (body : List Statement)
    (handler : Option (Option Pattern × List Statement)) (final : Option (List Statement)) :
    Action Flow := do
  let guarded : Action Flow := match handler with
    | none => r.executeBlock scope body
    | some (p, recovery) =>
        Promise.attempt (r.executeBlock scope body) fun e => do
          let inner ← newScope scope
          match p with
          | some p => do
              p.names.forM fun name => declare inner ⟨name, none, false⟩
              r.bind inner true p e
          | none => pure ()
          r.executeBlock inner recovery
  match final with
  | none => guarded
  | some final =>
      let ended : Except Value Flow ← Promise.attempt (return .ok (← guarded))
        fun e => return .error e
      match ← r.executeBlock scope final, ended with
      | .normal _, .ok flow => return flow
      | .normal _, .error e => throw (.thrown e)
      | flow, _ => return flow

/- What a statement does; `labels` are those that name it. -/
def executeOnce (r : Recur) (scope : Nat) (labels : List String) (s : Statement) :
    Action Flow := do
  match s with
  | .empty | .function _ => return .normal none
  | .evaluate e => return .normal (some (← r.evaluate scope e))
  | .declare kind items =>
      r.executeDeclare scope kind items
      return .normal none
  | .classOf c =>
      let v ← r.evaluate scope (.classOf c)
      match c with
      | .mk (some name) .. => fillName scope name v
      | _ => pure ()
      return .normal none
  | .block body => r.executeBlock scope body
  | .branch test yes no =>
      if truthy (← r.evaluate scope test) then
        return (← r.execute scope [] yes).orValue (some .undefined)
      else
        match no with
        | some no => return (← r.execute scope [] no).orValue (some .undefined)
        | none => return .normal (some .undefined)
  | .loop late test body => r.executeLoop scope labels late test body
  | .count start test step body => r.executeCount scope labels start test step body
  | .each keys kind place source body =>
      r.executeEach scope labels keys kind place source body
  | .labelled label body =>
      match ← r.execute scope (label :: labels) body with
      | .leave (some other) v =>
          return if other == label then .normal v else .leave (some other) v
      | flow => return flow
  | .leave label => return .leave label none
  | .next label => return .next label none
  | .answer e =>
      match e with
      | some e => return .answer (← r.evaluate scope e)
      | none => return .answer .undefined
  | .raise e => throw (.thrown (← r.evaluate scope e))
  | .guarded body handler final =>
      return (← r.executeGuarded scope body handler final).orValue (some .undefined)
  | .choose subject cases =>
      return (← r.executeChoose scope subject cases).orValue (some .undefined)

end Recur

def maxDepth : Nat := 16000

def recur (natives : Array Native) : (depth : Nat) → Recur
  | 0 =>
      let tooDeep {α : Type} : Action α := fail .range "Maximum call stack size exceeded"
      ⟨fun _ _ => tooDeep, fun _ _ _ => tooDeep, fun _ _ _ _ => tooDeep,
        fun _ _ _ => tooDeep, fun _ _ _ => tooDeep⟩
  | depth + 1 =>
      let r := recur natives depth
      ⟨r.evaluateOnce, r.executeOnce, r.bindPattern, callValue natives r,
        constructValue natives r⟩

def clash? (script : Code) : Action (Option String) := do
  let m ← get
  let outermost := m.scopes.getD Scope.outermost default
  let isScoped (name : String) : Bool := outermost.bindings.any (·.name == name)
  let isFixed (name : String) : Bool :=
    match (m.heap.getD Place.globalObject default).slot? (.name name) with
    | some slot => !slot.configurable
    | none => false
  let blockwise := (scopedNames script.body).map (·.1)
  let hoisted := script.hoisted ++ (declaredFunctions script.body).map (·.name)
  return (blockwise.find? fun name => isScoped name || isFixed name) <|>
    hoisted.find? isScoped

/- Runs a script; its hoisted names and its functions become properties of the global object. -/
def runScript (r : Recur) (script : Code) : Action Value := do
  step
  match ← clash? script with
  | some name => fail .grammar ("redeclaration of '" ++ name ++ "'")
  | none => pure ()
  script.hoisted.forM fun name => do
    if !(← object Place.globalObject).slots.any (·.1 == .name name) then
      define Place.globalObject (.name name) (.data .undefined true true false)
  (scopedNames script.body).forM fun (name, constant) =>
    declare Scope.outermost ⟨name, none, constant⟩
  (declaredFunctions script.body).forM fun f => do
    define Place.globalObject (.name f.name)
      (.data (← newFunction Scope.outermost f f.name none) true true false)
  match ← r.executeAll Scope.outermost script.body none with
  | .normal v => return v.getD .undefined
  | _ => return .undefined

end ScriptConsole.Engine
