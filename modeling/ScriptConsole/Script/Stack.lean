import ScriptConsole.Script.Tree

/-!
The stacks of a parse that follows several ways at once. Stacks share what is below their tops: a
top is a node with links to the nodes below it, each link holding the tree between them. A way that
is followed is a version, known by its place in a list. Nodes are never removed, and no way is
followed for longer than the work allotted to it. -/
namespace ScriptConsole.Script
open Grammar (State Symbol)

structure Link where
  node : Nat
  -- The tree between; none where an error was entered.
  tree : Option Tree
  deriving Inhabited

structure StackNode where
  -- None inside an error.
  state : Option State
  links : Array Link
  place : Nat
  cost : Nat
  weight : Int
  count : Nat

instance : Inhabited StackNode := ⟨⟨none, #[], 0, 0, 0, 0⟩⟩

inductive Status
  | active
  | paused (lookahead : Tree)
  | halted
  deriving Inhabited

structure Resting where
  place : Nat
  depth : Nat
  state : Option State

structure Version where
  node : Nat
  status : Status
  -- Shown nodes when the last error was met.
  countAtError : Nat
  -- The states below, once an error was met.
  resting : Option (List Resting)
  deriving Inhabited

namespace Version

def isActive (version : Version) : Bool :=
  match version.status with
  | .active => true
  | _ => false

def isPaused (version : Version) : Bool :=
  match version.status with
  | .paused _ => true
  | _ => false

def isHalted (version : Version) : Bool :=
  match version.status with
  | .halted => true
  | _ => false

end Version

structure Session where
  tongue : Tongue
  source : Source
  nodes : Array StackNode
  versions : Array Version
  finished : Option Tree
  accepted : Nat

def sameState : Option State → Option State → Bool
  | none, none => true
  | some a, some b => a.same b
  | _, _ => false

namespace Session

def maxLinks : Nat := 8

def maxWalkers : Nat := 64

def node (session : Session) (n : Nat) : StackNode := session.nodes.getD n default

def version (session : Session) (v : Nat) : Version := session.versions.getD v default

def top (session : Session) (v : Nat) : StackNode := session.node (session.version v).node

def stateOf (session : Session) (v : Nat) : Option State := (session.top v).state

def modifyVersion (session : Session) (v : Nat) (f : Version → Version) : Session :=
  { session with versions := session.versions.modify v f }

def modifyNode (session : Session) (n : Nat) (f : StackNode → StackNode) : Session :=
  { session with nodes := session.nodes.modify n f }

def setStatus (session : Session) (v : Nat) (status : Status) : Session :=
  session.modifyVersion v fun version => { version with status := status }

def shownCount (session : Session) (tree : Option Tree) : Nat :=
  match tree with
  | some tree => tree.shownCount session.tongue
  | none => 0

def addNode (session : Session) (below : Nat) (tree : Option Tree) (state : Option State) :
    Session × Nat :=
  let under := session.node below
  let node : StackNode :=
    { state := state
      links := #[⟨below, tree⟩]
      place := (tree.map (·.stop)).getD under.place
      cost := under.cost + (tree.map (·.cost)).getD 0
      weight := under.weight + (tree.map (·.weight)).getD 0
      count := under.count + session.shownCount tree }
  ({ session with nodes := session.nodes.push node }, session.nodes.size)

/- Puts a tree on a version; without a tree, an error begins. -/
def push (session : Session) (v : Nat) (tree : Option Tree) (state : Option State) : Session :=
  let (session, n) := session.addNode (session.version v).node tree state
  session.modifyVersion v fun version =>
    { version with
      node := n
      countAtError := if tree.isNone then (session.node n).count else version.countAtError }

def equivalentTrees : Option Tree → Option Tree → Bool
  | none, none => true
  | some a, some b => a.equivalent b
  | _, _ => false

def sameTop (a b : StackNode) : Bool :=
  sameState a.state b.state && a.place = b.place && a.cost = b.cost

/-- Links a node to another one below it. Of equivalent trees to the same node the heavier one is
kept; equivalent trees to like nodes make those one. -/
def addLink : Nat → Session → Nat → Link → Session
  | 0, session, _, _ => session
  | fuel + 1, session, n, link =>
      let node := session.node n
      let below := session.node link.node
      let weight := below.weight + (link.tree.map (·.weight)).getD 0
      if link.node = n then session
      else
        match node.links.findIdx? fun other => equivalentTrees other.tree link.tree &&
            (other.node = link.node || sameTop (session.node other.node) below) with
        | some i =>
            let other := node.links.getD i default
            if other.node = link.node then
              if (link.tree.map (·.weight)).getD 0 > (other.tree.map (·.weight)).getD 0 then
                session.modifyNode n fun node =>
                  { node with links := node.links.set! i { other with tree := link.tree },
                              weight := weight }
              else session
            else
              let session := below.links.foldl (fun session inner =>
                addLink fuel session other.node inner) session
              session.modifyNode n fun node => { node with weight := max node.weight weight }
        | none =>
            if node.links.size ≥ maxLinks then session
            else
              let count := below.count + session.shownCount link.tree
              session.modifyNode n fun node =>
                { node with links := node.links.push link, weight := max node.weight weight,
                            count := max node.count count }

def remove (session : Session) (v : Nat) : Session :=
  { session with versions := session.versions.eraseIdxIfInBounds v }

def moveTo (session : Session) (v target : Nat) : Session :=
  if v = target then session
  else
    let moved := session.version v
    let resting := moved.resting <|> (session.version target).resting
    { session with versions :=
        (session.versions.set! target { moved with resting := resting }).eraseIdxIfInBounds v }

def swap (session : Session) (v w : Nat) : Session :=
  { session with versions := session.versions.swapIfInBounds v w }

def copy (session : Session) (v : Nat) : Session × Nat :=
  ({ session with versions := session.versions.push { session.version v with resting := none } },
    session.versions.size)

def canMerge (session : Session) (v w : Nat) : Bool :=
  (session.version v).isActive && (session.version w).isActive &&
    sameTop (session.top v) (session.top w)

/- Makes two versions one where they can be; the second goes. -/
def merge (session : Session) (v w : Nat) : Session × Bool :=
  if !session.canMerge v w then (session, false)
  else
    let n := (session.version v).node
    let session := (session.top w).links.foldl (fun session link =>
      addLink session.nodes.size session n link) session
    let session :=
      if (session.node n).state.isNone then
        session.modifyVersion v fun version =>
          { version with countAtError := (session.node n).count }
      else session
    (session.remove w, true)

structure Walker where
  node : Nat
  trees : List Tree
  count : Nat

structure Slice where
  version : Nat
  trees : List Tree
  deriving Inhabited

structure Visit where
  takeOff : Bool
  stop : Bool

structure Walk (σ : Type) where
  session : Session
  memo : σ
  slices : Array Slice
  kept : List Walker
  added : List Walker

def Walk.takeOff {σ : Type} (walk : Walk σ) (origin : Nat) (walker : Walker) : Walk σ :=
  let session := walk.session
  match walk.slices.toList.reverse.zipIdx.find? fun (slice, _) =>
      (session.version slice.version).node = walker.node with
  | some (slice, i) =>
      { walk with slices :=
          walk.slices.insertIdxIfInBounds (walk.slices.size - i) ⟨slice.version, walker.trees⟩ }
  | none =>
      let version : Version :=
        ⟨walker.node, .active, (session.version origin).countAtError, none⟩
      { walk with
        session := { session with versions := session.versions.push version }
        slices := walk.slices.push ⟨session.versions.size, walker.trees⟩ }

def Walker.follow (walker : Walker) (link : Link) : Walker :=
  match link.tree with
  | some tree =>
      ⟨link.node, tree :: walker.trees, if tree.extra then walker.count else walker.count + 1⟩
  | none => ⟨link.node, walker.trees, walker.count + 1⟩

/- One step down for each walker; where ways part, one walker for each. -/
def walkRound {σ : Type} (origin : Nat) (visit : σ → StackNode → Walker → Visit × σ) :
    List Walker → Walk σ → Walk σ
  | [], walk => walk
  | walker :: rest, walk =>
      let node := walk.session.node walker.node
      let (choice, memo) := visit walk.memo node walker
      let walk := { walk with memo := memo }
      let walk := if choice.takeOff then walk.takeOff origin walker else walk
      match choice.stop, node.links.toList with
      | false, first :: others =>
          let walk := others.foldl (fun walk link =>
            if rest.length + 1 + walk.kept.length + walk.added.length ≥ maxWalkers then walk
            else { walk with added := walker.follow link :: walk.added }) walk
          walkRound origin visit rest { walk with kept := walker.follow first :: walk.kept }
      | _, _ => walkRound origin visit rest walk

def walkRounds {σ : Type} (origin : Nat) (visit : σ → StackNode → Walker → Visit × σ) :
    Nat → List Walker → Walk σ → Walk σ
  | 0, _, walk => walk
  | _, [], walk => walk
  | fuel + 1, walkers, walk =>
      let walk := walkRound origin visit walkers { walk with kept := [], added := [] }
      walkRounds origin visit fuel (walk.kept.reverse ++ walk.added.reverse) walk

def walk {σ : Type} (session : Session) (v : Nat)
    (visit : σ → StackNode → Walker → Visit × σ) (memo : σ) : Walk σ :=
  walkRounds v visit (session.nodes.size + 1) [⟨(session.version v).node, [], 0⟩]
    ⟨session, memo, #[], [], []⟩

/- Takes off `count` trees, besides extras. -/
def pop (session : Session) (v count : Nat) : Session × List Slice :=
  let walk := session.walk v (fun _ _ walker =>
    if walker.count = count then (⟨true, true⟩, ()) else (⟨false, false⟩, ())) ()
  (walk.session, walk.slices.toList)

def popAll (session : Session) (v : Nat) : Session × List Slice :=
  let walk := session.walk v (fun _ node _ => (⟨node.links.isEmpty, false⟩, ())) ()
  (walk.session, walk.slices.toList)

/- Takes an error off the top of a version, if one is there; its trees. -/
def popError (session : Session) (v : Nat) : Session × List Tree :=
  if (session.top v).links.any fun link => (link.tree.map (·.label)) = some .error then
    let walk := session.walk v (fun (found : Bool) _ walker =>
      match walker.trees.getLast? with
      | some tree =>
          if !found && tree.label = .error then (⟨true, true⟩, true) else (⟨false, true⟩, found)
      | none => (⟨false, false⟩, found)) false
    match walk.slices.toList with
    | slice :: _ => (walk.session.moveTo slice.version v, slice.trees)
    | [] => (walk.session, [])
  else (session, [])

def maxDepth : Nat := 16

def noteResting (session : Session) (v : Nat) : Session :=
  let walk := session.walk v (fun (found : List Resting) node walker =>
    if walker.count > maxDepth then (⟨false, true⟩, found)
    else if (found.takeWhile (·.depth ≥ walker.count)).any fun resting =>
        resting.depth = walker.count && sameState resting.state node.state then
      (⟨false, false⟩, found)
    else (⟨false, false⟩, ⟨node.place, walker.count, node.state⟩ :: found)) []
  walk.session.modifyVersion v fun version => { version with resting := some walk.memo.reverse }

end Session

end ScriptConsole.Script
