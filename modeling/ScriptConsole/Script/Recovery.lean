import ScriptConsole.Script.Reading

/-!
Ending productions, and going on after an error. A version that meets a token it has no use for may
suppose that one token is missing, go back to a state below in which the token fits, or skip the
token; which of these is kept is a matter of what it costs. -/
namespace ScriptConsole.Script
open Grammar (Action Reduction State Symbol)

structure Standing where
  cost : Nat
  -- Shown nodes since the last error.
  count : Nat
  weight : Int
  inError : Bool

inductive Preference
  | takeLeft | preferLeft | either | preferRight | takeRight
  deriving DecidableEq, Repr

def Standing.compare (a b : Standing) : Preference :=
  let settled (cheap dear : Standing) : Bool := (dear.cost - cheap.cost) * (1 + cheap.count) > 1800
  if !a.inError && b.inError then if a.cost < b.cost then .takeLeft else .preferLeft
  else if a.inError && !b.inError then if b.cost < a.cost then .takeRight else .preferRight
  else if a.cost < b.cost then if settled a b then .takeLeft else .preferLeft
  else if b.cost < a.cost then if settled b a then .takeRight else .preferRight
  else if a.weight > b.weight then .preferLeft
  else if b.weight > a.weight then .preferRight
  else .either

namespace Session

def maxVersions : Nat := 6

def versionOverflow : Nat := 4

/- The cost of a version so far; one that stands at an error has that to come. -/
def errorCostOf (session : Session) (v : Nat) : Nat :=
  let top := session.top v
  let entered := top.state.isNone && (top.links[0]?.map (·.tree.isNone)).getD false
  top.cost + if (session.version v).isPaused || entered then Tree.errorCost else 0

def settle (session : Session) (v : Nat) : Session :=
  let count := (session.top v).count
  session.modifyVersion v fun version =>
    { version with countAtError := min version.countAtError count }

def sinceError (session : Session) (v : Nat) : Nat :=
  (session.top v).count - (session.version v).countAtError

def standing (session : Session) (v : Nat) : Session × Standing :=
  let session := session.settle v
  let paused := (session.version v).isPaused
  (session,
    { cost := session.errorCostOf v + if paused then Tree.skippedCost else 0
      count := session.sinceError v
      weight := (session.top v).weight
      inError := paused || (session.stateOf v).isNone })

def isOutdone (session : Session) (v : Nat) (cost : Nat) : Session × Bool :=
  match session.finished with
  | some tree => if tree.cost ≤ cost then (session, true) else go session
  | none => go session
where
  go (session : Session) : Session × Bool :=
    let place := (session.top v).place
    let session := session.settle v
    let own : Standing := ⟨cost, session.sinceError v, (session.top v).weight, false⟩
    (List.range session.versions.size).foldl (fun (session, outdone) w =>
      if outdone || w = v || !(session.version w).isActive || (session.top w).place < place then
        (session, outdone)
      else
        let (session, other) := session.standing w
        match own.compare other with
        | .takeRight => (session, true)
        | .preferRight => (session, session.canMerge w v)
        | _ => (session, false)) (session, false)

/- Puts the node of an ended production on the version that its slices were taken off to. Of several
nodes the best is kept. -/
def putNode (session : Session) (reduction : Reduction) (target : Nat)
    (slices : List (List Tree)) : Session :=
  let place := (session.top target).place
  let build (trees : List Tree) : Tree × List Tree :=
    let (children, trailing) := Tree.splitTrailing trees
    (.node session.tongue session.source (.symbol (.nonterminal reduction.nonterminal)) children
      reduction.production place, trailing)
  match slices.map build with
  | [] => session
  | first :: others =>
      let (parent, trailing) := others.foldl (fun best other =>
        if best.1.yieldsTo session.tongue other.1 then other else best) first
      let next := (session.stateOf target).bind (·.goto? (.nonterminal reduction.nonterminal))
      let session := session.push target
        (some { parent with weight := parent.weight + reduction.weight }) next
      trailing.foldl (fun session tree => session.push target (some tree) next) session

/- Makes a version one with the first before it that it can be one with, but not with `except`. -/
def mergeEarlier (session : Session) (v except : Nat) : Session × Bool :=
  (List.range v).foldl (fun (session, done) w =>
    if done || w = except then (session, done) else session.merge w v) (session, false)

/- Ends a production at the top of a version: new versions stand where its node is. Answers the
first of them, if any is left. -/
def reduce (session : Session) (v : Nat) (reduction : Reduction) : Session × Option Nat :=
  let initial := session.versions.size
  let (session, slices) := session.pop v reduction.length
  let halted := (session.versions.filter (·.isHalted)).size
  let (session, _) := (slices.splitBy (·.version == ·.version)).foldl
    (fun (session, removed) group =>
      let target := ((group.head?.map (·.version)).getD 0) - removed
      if target > maxVersions + versionOverflow + halted then (session.remove target, removed + 1)
      else
        let session := session.putNode reduction target (group.map (·.trees))
        let (session, merged) := session.mergeEarlier target v
        (session, if merged then removed + 1 else removed)) (session, 0)
  (session, if session.versions.size > initial then some initial else none)

def accept (session : Session) (v : Nat) (lookahead : Tree) : Session :=
  let session := session.push v (some lookahead) session.tongue.start
  let (session, slices) := session.popAll v
  let session := slices.foldl (fun session slice =>
    match whole? session slice.trees with
    | none => { session with accepted := session.accepted + 1 }
    | some tree =>
        let better := match session.finished with
          | some old => if old.yieldsTo session.tongue tree then tree else old
          | none => tree
        { session with accepted := session.accepted + 1, finished := some better }) session
  let session := match slices with
    | slice :: _ => session.remove slice.version
    | [] => session
  session.setStatus v .halted
where
  whole? (session : Session) (trees : List Tree) : Option Tree :=
    let trailing := (trees.reverse.takeWhile (·.extra)).reverse
    match trees.reverse.dropWhile (·.extra) with
    | tree :: before =>
        some (.node session.tongue session.source tree.label
          (before.reverse ++ tree.children ++ trailing) tree.production 0)
    | [] => none

/- What can be done in a state at some tokens: whether one can be read, and the productions that
can end, each once. -/
def prospects (state : Option State) (tokens : List Nat) : Bool × List Reduction :=
  let actions := tokens.flatMap fun t => actionsAt state (.symbol (.terminal t))
  (actions.any (· = .shift false),
    (actions.foldl (fun found action =>
      match action with
      | .reduce reduction =>
          if reduction.length > 0 && !found.any fun other =>
              other.nonterminal = reduction.nonterminal && other.length = reduction.length then
            reduction :: found
          else found
      | _ => found) []).reverse)

/- Ends every production that can end on a version and on those made from it. With a token, only
before that token, and versions that cannot read it go. Answers whether one can go on. -/
def reduceAll (session : Session) (v : Nat) (token : Option Nat) : Session × Bool :=
  let initial := session.versions.size
  go initial 10000 0 v session false
where
  go (initial : Nat) : Nat → Nat → Nat → Session → Bool → Session × Bool
    | 0, _, _, session, found => (session, found)
    | fuel + 1, round, w, session, found =>
        let count := session.versions.size
        if w ≥ count then (session, found)
        else
          let (session, merged) := ((List.range w).drop initial).foldl (fun (session, done) u =>
            if done then (session, done) else session.merge u w) (session, false)
          if merged then go initial fuel (round + 1) w session found
          else
            let tokens := match token with
              | some t => [t]
              | none => session.tongue.lexicon.candidates
            let (canRead, reductions) := prospects (session.stateOf w) tokens
            let (session, last) := reductions.foldl (fun (session, _) reduction =>
              session.reduce w reduction) (session, none)
            let following := if w = v then count else w + 1
            match canRead, last with
            | true, _ => go initial fuel (round + 1) following session true
            | false, some made =>
                if round < maxVersions then
                  go initial fuel (round + 1) w (session.moveTo made w) found
                else go initial fuel (round + 1) following (drop session w) found
            | false, none => go initial fuel (round + 1) following (drop session w) found
  drop (session : Session) (w : Nat) : Session :=
    if token.isSome then session.remove w else session

/- Takes a version back to a state below it; the trees taken off become an error. -/
def recoverTo (session : Session) (v depth : Nat) (goal : State) : Session × Bool :=
  let (session, slices) := session.pop v depth
  let (session, last) := slices.foldl (fun (session, last) slice =>
    if last = some slice.version then (session, last)
    else if !sameState (session.stateOf slice.version) goal then
      (session.setStatus slice.version .halted, last)
    else
      let (session, error) := session.popError slice.version
      let inner := (error.head?.map (·.children)).getD []
      let (trees, trailing) := Tree.splitTrailing (inner ++ slice.trees)
      let session :=
        if trees.isEmpty then session
        else
          let node := Tree.node session.tongue session.source .error trees none 0
          session.push slice.version (some { node with extra := true }) goal
      let session := trailing.foldl (fun session tree =>
        session.push slice.version (some tree) goal) session
      (session, some slice.version)) (session, (none : Option Nat))
  (session, last.isSome)

/- Looks for a state below in which the token fits, nearest first, and takes a version back to it
where that is worth its cost. Answers whether it was done. -/
def recoverBelow (v : Nat) (lookahead : Nat) (count : Nat) :
    List Resting → Session → Session × Bool
  | [], session => (session, false)
  | resting :: others, session =>
      let place := (session.top v).place
      match resting.state with
      | none => recoverBelow v lookahead count others session
      | some state =>
          let taken := (List.range count).any fun w =>
            sameState (session.stateOf w) state && (session.top w).place = place
          if resting.place = place || taken then
            recoverBelow v lookahead count others session
          else
            let cost := session.errorCostOf v + resting.depth * Tree.skippedCost +
              session.source.hidingCost resting.place place
            match session.isOutdone v cost with
            | (session, true) => (session, false)
            | (session, false) =>
                if (state.actionsAt lookahead).isEmpty then
                  recoverBelow v lookahead count others session
                else
                  let depth := resting.depth + if session.sinceError v > 0 then 1 else 0
                  match session.recoverTo v depth state with
                  | (session, true) => (session, true)
                  | (session, false) => recoverBelow v lookahead count others session

def isExtra (session : Session) (lookahead : Tree) : Bool :=
  lookahead.label.token?.any session.tongue.rules.table.extras.contains

def skipToken (session : Session) (v : Nat) (lookahead : Tree) : Session :=
  let lookahead := if session.isExtra lookahead then { lookahead with extra := true } else lookahead
  let part (session : Session) (trees : List Tree) : Tree :=
    .node session.tongue session.source .errorPart trees none 0
  let skipped := part session [lookahead]
  if session.sinceError v = 0 then session.push v (some skipped) none
  else
    let (session, slices) := session.pop v 1
    match slices with
    | [] => session.push v (some skipped) none
    | slice :: _ =>
        let session := { session with versions := session.versions.take (slice.version + 1) }
        let session := session.moveTo slice.version v
        session.push v (some (part session (slice.trees ++ [skipped]))) none

def recover (session : Session) (v : Nat) (lookahead : Tree) : Session :=
  let count := session.versions.size
  let session := session.settle v
  let (session, done) :=
    match (session.version v).resting, lookahead.label.token? with
    | some resting, some token => recoverBelow v token count resting session
    | _, _ => (session, false)
  let versions := session.versions.take count ++
    (session.versions.drop count).filter (·.isActive)
  let session := { session with versions := versions }
  if lookahead.label.isEnd then
    let node := Tree.node session.tongue session.source .error [] none (session.top v).place
    (session.push v (some node) session.tongue.start).accept v lookahead
  else if done && session.versions.size > maxVersions then session.setStatus v .halted
  else
    let cost := session.errorCostOf v + Tree.skippedCost +
      session.source.hidingCost lookahead.before lookahead.stop
    match session.isOutdone v cost with
    | (session, true) => session.setStatus v .halted
    | (session, false) => session.skipToken v lookahead

def insertMissing (session : Session) (v place : Nat) (lookahead : Label) :
    List Nat → Session × Bool
  | [] => (session, false)
  | candidate :: others =>
      match session.stateOf v with
      | none => (session, false)
      | some state =>
          match nextState state candidate with
          | none => insertMissing session v place lookahead others
          | some next =>
              match next.same state, (actionsAt next lookahead).head? with
              | false, some (.reduce _) =>
                  let (session, w) := session.copy v
                  let session := session.push w (some (.missingLeaf candidate place)) next
                  match session.reduceAll w (lookahead.token?.filter (· != 0)) with
                  | (session, true) => (session, true)
                  | (session, false) => insertMissing session v place lookahead others
              | _, _ => insertMissing session v place lookahead others

def handleError (session : Session) (v : Nat) (lookahead : Tree) : Session :=
  let initial := session.versions.size
  let (session, _) := session.reduceAll v none
  let count := session.versions.size
  let place := (session.top v).place
  let (session, _) := (v :: (List.range count).drop initial).foldl (fun (session, inserted) w =>
    let (session, inserted) :=
      if inserted then (session, true)
      else session.insertMissing w place lookahead.label session.tongue.lexicon.candidates
    (session.push w none none, inserted)) (session, false)
  let session := (List.range (count - initial)).foldl (fun session _ =>
    (session.merge v initial).1) session
  (session.noteResting v).recover v lookahead

end Session

end ScriptConsole.Script
