import ScriptConsole.Grammar.Lookahead

/-!
The automaton of a grammar: states are sets of productions read up to some point, each with the
tokens that may come after it. States are made when they are first reached. Where a token could both
continue a production and end one, precedence and grouping decide; what they leave open stays
open, and the parser follows every way. -/
namespace ScriptConsole.Grammar

structure Item where
  production : Nat
  dot : Nat
  owner : Nat
  length : Nat
  weight : Int
  rank : Option Rank
  side : Option Side
  next : Option Step
  afterNext : Option Step
  successor : Nat
  deriving Repr, Inhabited

/-- What makes two items the same: everything still to read, and of what was read only what shows
in the tree. -/
structure ItemKey where
  owner : Nat
  dot : Nat
  weight : Int
  length : Nat
  rank : Option Rank
  side : Option Side
  passed : List (Option Rename × Option String × Option Symbol)
  rest : List Step
  deriving DecidableEq, Hashable

structure Reduction where
  nonterminal : Nat
  length : Nat
  weight : Int
  production : Nat
  deriving DecidableEq, Repr, Inhabited

inductive Action
  /- Read the token; within a repetition that could as well be split later, only to tell that the
  token may come. -/
  | shift (repetition : Bool)
  -- Read the token and stay where it stands.
  | shiftExtra
  | reduce (reduction : Reduction)
  | accept
  deriving DecidableEq, Repr, Inhabited

structure Entry where
  item : Nat
  after : TokenSet
  deriving DecidableEq, Repr, Hashable, Inhabited

structure Closed where
  entries : Array Entry
  ends : Array Entry
  shiftable : TokenSet
  deriving Inhabited

structure Rules where
  table : Table
  first : Array TokenSet
  -- In the order in which reductions are tried.
  items : Array Item
  initial : Array Nat
  -- What expecting a nonterminal adds: items, each with what may follow.
  expected : Array (Thunk (Array (Nat × Following)))

namespace Table

def allProductions (table : Table) : Array Production :=
  table.productions.push
    ⟨table.nonterminals.size, #[⟨.nonterminal table.start, none, none, none, none, false⟩], 0⟩

def isHidden (table : Table) : Symbol → Bool
  | .terminal _ => false
  | .nonterminal n => !(table.nonterminals.getD n default).presentation.visible

def itemKey (table : Table) (production : Production) (dot : Nat) : ItemKey :=
  let steps := production.steps.toList
  let before := if dot = 0 then none else steps[dot - 1]?
  ⟨production.owner, dot, production.weight, steps.length, before.bind (·.rank),
    before.bind (·.side),
    (steps.take dot).map fun step =>
      (step.rename, step.field, if table.isHidden step.symbol then some step.symbol else none),
    steps.drop dot⟩

def itemBefore (a b : Item) : Bool :=
  if a.dot != b.dot then a.dot < b.dot
  else if a.owner != b.owner then a.owner < b.owner
  else if a.weight != b.weight then a.weight < b.weight
  else if a.length != b.length then a.length < b.length
  else a.production ≤ b.production

def rules (table : Table) : Rules :=
  let productions := table.allProductions
  let places := (productions.toList.zipIdx.flatMap fun (production, p) =>
    (List.range (production.steps.size + 1)).map fun dot =>
      (table.itemKey production dot, p, dot))
  let distinct := (places.foldl (fun (seen : Std.HashSet ItemKey × List (ItemKey × Item)) place =>
    let (key, p, dot) := place
    if seen.1.contains key then seen
    else (seen.1.insert key, (key, ⟨p, dot, key.owner, key.length, key.weight, key.rank, key.side,
      key.rest[0]?, key.rest[1]?, 0⟩) :: seen.2)) (∅, [])).2
  let ordered := distinct.mergeSort fun a b => itemBefore a.2 b.2
  let numbers : Std.HashMap ItemKey Nat := .ofList ((ordered.map (·.1)).zipIdx)
  let numberOf (p dot : Nat) : Nat :=
    numbers.getD (table.itemKey (productions.getD p default) dot) 0
  let first := table.firstSets
  let initial := (Array.range productions.size).map (numberOf · 0)
  { table := table
    first := first
    items := (ordered.map fun (_, item) =>
      { item with successor :=
          if item.next.isSome then numberOf item.production (item.dot + 1) else 0 }).toArray
    initial := initial
    expected := (Array.range table.nonterminals.size).map fun n => Thunk.mk fun _ =>
      (table.following first n).zipIdx.flatMap fun (entry, m) =>
        match entry with
        | none => #[]
        | some following =>
            (table.productionsOf.getD m #[]).map fun p => (initial.getD p 0, following) }

end Table

structure Binding where
  rank : Option Rank
  owners : List Nat
  left : Bool
  right : Bool
  ungrouped : Bool

def Binding.none : Binding := ⟨Option.none, [], false, false, false⟩

namespace Rules

def item (rules : Rules) (n : Nat) : Item := rules.items.getD n default

def stepFirst (rules : Rules) (step : Step) : TokenSet := rules.table.stepFirst rules.first step

def isWhole (rules : Rules) (item : Item) : Bool := item.owner = rules.table.nonterminals.size

def isRepetition (rules : Rules) (owner : Nat) : Bool :=
  (rules.table.nonterminals.getD owner default).repetition

def matchesEntry (rules : Rules) (rank : Option Rank) (owners : List Nat) : OrderEntry → Bool
  | .level name => rank = some (.level name)
  | .rule name => owners.any fun owner =>
      match rules.table.nonterminals[owner]? with
      | some nonterminal => nonterminal.presentation.kind = name
      | none => false

/- Compares within one order: the first entry that speaks of one side makes the other the looser
one, once that is met as well. -/
def compareIn (one other : OrderEntry → Bool) (sawOne sawOther : Bool) :
    List OrderEntry → Option Ordering
  | [] => none
  | entry :: rest =>
      if one entry then
        if sawOther then some .lt else compareIn one other true sawOther rest
      else if other entry then
        if sawOne then some .gt else compareIn one other sawOne true rest
      else compareIn one other sawOne sawOther rest

def compareBinding (rules : Rules) (rank : Option Rank) (owners : List Nat)
    (otherRank : Option Rank) (otherOwners : List Nat) : Ordering :=
  (rules.table.orders.findSome? (compareIn (rules.matchesEntry rank owners)
    (rules.matchesEntry otherRank otherOwners) false false)).getD .eq

/- The closed set of items of a kernel, each with the tokens that may follow, in order. -/
def closure (rules : Rules) (kernel : Array Entry) : Array Entry :=
  let start : Array TokenSet := kernel.foldl (fun sets entry => sets.set! entry.item entry.after)
    (.replicate rules.items.size 0)
  let sets := kernel.foldl (fun sets entry =>
    let item := rules.item entry.item
    match item.next.bind Step.nonterminal? with
    | some m =>
        let after := match item.afterNext with
          | some step => rules.stepFirst step
          | none => entry.after
        match rules.expected[m]? with
        | some entries => entries.get.foldl (fun (sets : Array TokenSet) (k, following) =>
            sets.modify k (· ||| following.of after)) sets
        | none => sets
    | none => sets) start
  sets.zipIdx.filterMap fun (after, n) => if after = 0 then none else some ⟨n, after⟩

def close (rules : Rules) (kernel : Array Entry) : Closed :=
  let entries := rules.closure kernel
  { entries := entries
    ends := entries.filter fun entry => (rules.item entry.item).next.isNone
    shiftable := entries.foldl (fun all entry =>
      match (rules.item entry.item).next.bind Step.terminal? with
      | some t => all ||| .single t
      | none => all) 0 }

def note (binding : Binding) (item : Item) : Binding :=
  { rank := item.rank
    owners := if binding.owners.contains item.owner then binding.owners
      else binding.owners ++ [item.owner]
    left := binding.left || item.side = some .left
    right := binding.right || item.side = some .right
    ungrouped := binding.ungrouped || item.side = none }

def endings (rules : Rules) (closed : Closed) (token : Nat) : List Item × Binding :=
  closed.ends.foldl (fun (found : List Item × Binding) entry =>
    let item := rules.item entry.item
    if !entry.after.testBit token || rules.isWhole item then found
    else if found.1.isEmpty then ([item], note .none item)
    else
      match rules.compareBinding item.rank [item.owner] found.2.rank found.2.owners with
      | .gt => ([item], note .none item)
      | .eq => (found.1 ++ [item], note found.2 item)
      | .lt => found) ([], .none)

inductive Verdict
  | readOn | endFirst | both | repetition
  deriving DecidableEq, Repr

def verdict (rules : Rules) (closed : Closed) (token : Nat) (binding : Binding) : Verdict :=
  let involved := closed.entries.toList.filterMap fun entry =>
    let item := rules.item entry.item
    let isInvolved := match item.next with
      | some step => item.dot > 0 && (rules.stepFirst step).testBit token
      | none => entry.after.testBit token
    if isInvolved then some item else none
  let owners := (involved.filter (!rules.isWhole ·)).map (·.owner)
  let comparisons := (involved.filter (·.next.isSome)).map fun item =>
    rules.compareBinding item.rank [item.owner] binding.rank binding.owners
  if !owners.isEmpty && owners.all fun owner =>
      owners.head? = some owner && rules.isRepetition owner then .repetition
  else
    match comparisons.contains .gt, comparisons.contains .lt with
    | true, false => .readOn
    | false, true => .endFirst
    | true, true => .both
    | false, false =>
        match binding.left, binding.right, binding.ungrouped with
        | true, false, false => .endFirst
        | false, true, false => .readOn
        | _, _, _ => .both

def actions (rules : Rules) (closed : Closed) (token : Nat) : List Action :=
  let whole := closed.ends.any fun entry =>
    entry.after.testBit token && rules.isWhole (rules.item entry.item)
  let (items, binding) := rules.endings closed token
  let reductions := (if whole then [Action.accept] else []) ++ items.map fun item =>
    Action.reduce ⟨item.owner, item.dot, item.weight, item.production⟩
  let found :=
    if !closed.shiftable.testBit token then reductions
    else if reductions.isEmpty then [.shift false]
    else
      match rules.verdict closed token binding with
      | .readOn => [.shift false]
      | .endFirst => reductions
      | .both => reductions ++ [.shift false]
      | .repetition => reductions ++ [.shift true]
  if found.isEmpty && rules.table.extras.contains token then [.shiftExtra] else found

end Rules

/- A state of the automaton. What it needs its closure for waits until it is asked for. -/
structure State where
  kernel : Array Entry
  mark : UInt64
  actions : Thunk (Array (List Action))
  -- Whether reserved words are no names here.
  reserving : Thunk Bool
  -- The state after a symbol.
  goto? : Symbol → Option State

namespace State

def same (a b : State) : Bool := a.mark == b.mark && a.kernel == b.kernel

def actionsAt (state : State) (token : Nat) : List Action := state.actions.get.getD token []

end State

namespace Rules

def successors (rules : Rules) (closed : Closed) : List (Symbol × Array Entry) :=
  let groups := closed.entries.foldl (fun (groups : Std.HashMap Symbol (List Entry)) entry =>
    let item := rules.item entry.item
    match item.next with
    | none => groups
    | some step => groups.insert step.symbol
        (⟨item.successor, entry.after⟩ :: groups.getD step.symbol [])) ∅
  groups.toList.map fun (symbol, group) =>
    (symbol, (join (group.mergeSort fun a b => a.item ≤ b.item)).toArray)
where
  join : List Entry → List Entry
    | a :: b :: rest =>
        if a.item = b.item then join (⟨a.item, a.after ||| b.after⟩ :: rest)
        else a :: join (b :: rest)
    | rest => rest
  termination_by entries => entries.length

/-- Whether a name may come next and no property is named. -/
def reserves (rules : Rules) (closed : Closed) : Bool :=
  let word := rules.table.word
  let tokens := closed.entries.foldl (fun all entry =>
    match (rules.item entry.item).next with
    | none => all ||| entry.after
    | some step =>
        if step.symbol = .terminal word then all ||| rules.stepFirst step else all) 0
  tokens.testBit word && !tokens.testBit rules.table.propertyBit

/-- The state with a kernel. Its ways on are made when they are first taken, along paths of at most
`depth` symbols. -/
def state (rules : Rules) : Nat → Array Entry → State
  | 0, kernel => ⟨kernel, hash kernel, Thunk.mk fun _ => #[], Thunk.mk fun _ => false,
      fun _ => none⟩
  | depth + 1, kernel =>
      let closed : Thunk Closed := Thunk.mk fun _ => rules.close kernel
      let next : Thunk (Std.HashMap Symbol (Thunk State)) := Thunk.mk fun _ =>
        .ofList ((rules.successors closed.get).map fun (symbol, kernel) =>
          (symbol, Thunk.mk fun _ => state rules depth kernel))
      { kernel := kernel
        mark := hash kernel
        actions := Thunk.mk fun _ =>
          (Array.range rules.table.terminals.size).map (rules.actions closed.get)
        reserving := Thunk.mk fun _ => rules.reserves closed.get
        goto? := fun symbol => (next.get[symbol]?).map Thunk.get }

def start (rules : Rules) (depth : Nat) : State :=
  rules.state depth #[⟨rules.initial.getD rules.table.productions.size 0, .single 0⟩]

end Rules

end ScriptConsole.Grammar
