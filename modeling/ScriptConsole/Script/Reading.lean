import ScriptConsole.Script.Stack
import ScriptConsole.Script.Surroundings

/-!
Reading the next token of a version. Where the grammar allows no token that is there, any token is
looked for, and the text before it is an error. -/
namespace ScriptConsole.Script
open Grammar (Action State Symbol Contextual Shape)

namespace Session

/- What may be done at a token; inside an error nothing. -/
def actionsAt (state : Option State) : Label → List Action
  | .symbol (.terminal n) => ((state.map (·.actionsAt n)).getD [])
  | _ => []

/- Whether a token fits. Inside an error a token fits that can follow one. -/
def accepts (session : Session) (state : Option State) (token : Nat) : Bool :=
  match state with
  | some state => !(state.actionsAt token).isEmpty
  | none => !session.tongue.lexicon.noRestart.contains token

def nextState (state : State) (token : Nat) : Option State :=
  match (state.actionsAt token).getLast? with
  | some .shiftExtra => some state
  | some (.shift _) => state.goto? (.terminal token)
  | _ => none

def isReserved (session : Session) (state : Option State) (token : Nat) : Bool :=
  match state with
  | some state => state.reserving.get && session.tongue.rules.table.reserved.contains token
  | none => false

def advancedSinceError (session : Session) (v : Nat) : Bool :=
  let version := session.version v
  (session.node version.node).cost = 0 ||
    go version.countAtError session.nodes.size (session.node version.node)
where
  go (countAtError : Nat) : Nat → StackNode → Bool
    | 0, _ => false
    | fuel + 1, node =>
        match node.links[0]?.bind fun link => link.tree.map (link.node, ·) with
        | some (below, tree) =>
            if session.source.byte tree.before < session.source.byte tree.stop then true
            else if node.count > countAtError && tree.cost = 0 then
              go countAtError fuel (session.node below)
            else false
        | none => false

/-- The token that the surroundings make, unless it is empty and would be found again and again. -/
def contextualToken? (session : Session) (v : Nat) (state : State) (place : Nat) : Option Tree := do
  let numberOf (shape : Shape) : Nat := session.tongue.rules.table.numberOf.getD shape 0
  let allowed (shape : Shape) : Bool := !(state.actionsAt (numberOf shape)).isEmpty
  let found ← Surroundings.find?
    ⟨fun which => allowed (.contextual which), allowed (.literal "||"),
      allowed (.pattern .escape), allowed (.pattern .regexBody)⟩
    ⟨place, session.source.after place⟩
  let token := numberOf (.contextual found.which)
  let stays := match nextState state token with
    | some next => next.same state
    | none => false
  if found.stop ≤ place && (stays || !session.advancedSinceError v) then none
  else some (.leaf (.symbol (.terminal token)) place found.start found.stop)

/- A token of the text. A name that is a word of the grammar is that word where one fits, or where
it is reserved. -/
def wordToken (session : Session) (state : Option State) (before token start stop : Nat) : Tree :=
  let plain := Tree.leaf (.symbol (.terminal token)) before start stop
  if token != session.tongue.lexicon.name then plain
  else
    match session.tongue.lexicon.keywords[String.ofList (session.source.slice start stop)]? with
    | none => plain
    | some word =>
        if session.accepts state word || session.isReserved state word then
          { plain with label := .symbol (.terminal word), keyword := true }
        else { plain with keyword := true }

/- The token after any text that fits nowhere; that text, if there is some. -/
def readAnything (session : Session) (state : Option State) (place : Nat) : Tree :=
  go (session.source.length + 2) none place
where
  go : Nat → Option (Nat × Nat) → Nat → Tree
    | 0, skipped, here =>
        .leaf .error place (skipped.map (·.1) |>.getD here) (skipped.map (·.2) |>.getD here)
    | fuel + 1, skipped, here =>
        let lexicon := session.tongue.lexicon
        match lexicon.scan (!lexicon.never.contains ·) here (session.source.after here), skipped with
        | .token token start stop, none => session.wordToken state place token start stop
        | .token .., some (start, stop) => .leaf .error place start stop
        | .stuck start reached, _ =>
            let (errorStart, errorStop) := skipped.getD (start, start)
            if reached = errorStop then
              if reached ≥ session.source.length then .leaf .error place errorStart errorStop
              else go fuel (some (errorStart, reached + 1)) (reached + 1)
            else go fuel (some (errorStart, reached)) reached

def readToken (session : Session) (v : Nat) : Tree :=
  let place := (session.top v).place
  match session.stateOf v with
  | none => session.readAnything none place
  | some state =>
      match session.contextualToken? v state place with
      | some tree => tree
      | none =>
          match session.tongue.lexicon.scan (fun n => !(state.actionsAt n).isEmpty) place
              (session.source.after place) with
          | .token token start stop => session.wordToken state place token start stop
          | .stuck .. => session.readAnything state place

end Session

end ScriptConsole.Script
