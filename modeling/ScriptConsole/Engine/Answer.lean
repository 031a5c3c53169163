import ScriptConsole.Engine.Library.Global
import ScriptConsole.Target.Evaluator

/-!
The evaluator of scripts. An answer is the value in the notation of JSON, or as a text if it has none;
a value that was thrown is shown as what would throw it again. -/
namespace ScriptConsole.Engine
open Action

namespace Machine

def kindOfPlace (place : Nat) : Kind :=
  if place = Place.functionProto then .native Global.natives.size [] false
  else if place = Place.arrayProto then .array #[]
  else if place = Place.stringProto then .wrapped (.text "")
  else if place = Place.numberProto then .wrapped (.number 0)
  else if place = Place.booleanProto then .wrapped (.boolean false)
  else .plain

def parentOfPlace (place : Nat) : Option Nat :=
  if place = Place.objectProto then none
  else if place = Place.cursorProto then some Place.iteratorProto
  else if Place.errorProto < place then some Place.errorProto
  else some Place.objectProto

def bare : Machine where
  heap := ((List.range Place.count).map fun place =>
    Obj.ofKind (kindOfPlace place) (parentOfPlace place)).toArray
  scopes := #[⟨[⟨Scope.self, some (.object Place.globalObject), true⟩], none⟩]
  jobs := #[]
  nextSymbol := 100
  patience := 0
  cancelled := false
  yielded := []
  arguments := []

def after {α : Type} (m : Machine) (action : Action α) : Machine :=
  match action.run m with
  | .ok _ m | .error _ m => m

def furnished : Machine := bare.after (Shelf.installAll Deferred.first.length Global.shelves)

def fresh (arguments : List String) : Machine :=
  { furnished.after (do
      let ref ← newRecord
      define ref (.name "args") (.ordinary (← newArray (arguments.map .text)))
      define Place.globalObject (.name "system") (.ordinary (.object ref))) with
    arguments := arguments }

end Machine

def meaning : Recur := recur Global.natives maxDepth

namespace Answer

def caught {α : Type} (action : Action α) : Action (Except Abrupt α) :=
  tryCatch (return .ok (← action)) fun e => return .error e

def kindWord (v : Value) : Action String := do
  match v with
  | .object ref =>
      match (← object ref).kind with
      | .array _ => return "array"
      | .closure f =>
          return if f.lambda.role == .arrow || f.lambda.role == .method then "function"
            else "constructor"
      | .native _ _ constructs => return if constructs then "constructor" else "function"
      | .error => return "exception"
      | .promise _ => return "promise"
      | _ => return "object"
  | .symbol _ => return "symbol"
  | _ => return "object"

def text (v : Value) : Action String := do
  let shown ← caught (do
    let f ← meaning.getNamed (.object Place.globalObject) "String"
    meaning.call f .undefined [v])
  match shown with
  | .ok (.text s) => return s
  | _ => return "[" ++ (← kindWord v) ++ "]"

/- The answer for a value; `undefined` has none. -/
def ofValue (v : Value) : Action (Option String) := do
  match v with
  | .undefined => return none
  | _ =>
      match ← caught (Notation.stringify meaning Notation.plainStyle v) with
      | .ok (some s) => return some s
      | _ => return some (← text v)

def construction (name message : String) : String :=
  "new " ++ name ++ "(" ++ Notation.quote message ++ ")"

def ofThrown (v : Value) : Action String := do
  let isError ← match v with
    | .object ref =>
        (fun o => match o.kind with
          | .error => true
          | _ => false) <$> object ref
    | _ => pure false
  if isError then
    let name ← match ← caught (meaning.getNamed v "name") with
      | .ok (.text s) => pure s
      | _ => pure "Error"
    let message ← caught (do
      match ← meaning.getNamed v "message" with
      | .undefined | .null => return ""
      | message => meaning.toText message)
    return construction name (match message with
      | .ok s => s
      | .error _ => "")
  else return (← ofValue v).getD "undefined"

def ofAbrupt : Abrupt → Action String
  | .thrown v => ofThrown v
  | .interrupted => return construction "InternalError" "interrupted"
  | .skipped | .sated => return construction "InternalError" ""

def complaint? (source : Text) : Option String :=
  if source.contains '\x00' then
    some ("String contained internal null bytes: nul byte found in provided data at position: " ++
      Nat.repr (Text.size (source.takeWhile (· != '\x00'))))
  else none

def run (source : Text) : Action (Option String) := do
  match complaint? source with
  | some message => return some ("throw " ++ construction "Error" message)
  | none =>
      let result ← caught (Global.runText meaning source)
      Promise.runWhile meaning (pure true)
      match result with
      | .ok v => ofValue v
      | .error e => return some ("throw " ++ (← ofAbrupt e))

end Answer

/- The evaluator of scripts; its state is a machine. -/
def evaluator : Evaluator Machine where
  evaluate m signals source :=
    match (Answer.run source).run { m with cancelled := signals.cancel } with
    | .ok answer m => (answer.map String.toList, m, signals)
    | .error _ m => (none, m, signals)
  collectGarbage m := m
  reset m := (.ok (), Machine.fresh m.arguments)

def start (arguments : List Text) : Machine := .fresh (arguments.map String.ofList)

end ScriptConsole.Engine
