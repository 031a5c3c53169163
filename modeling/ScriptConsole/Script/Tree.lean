import ScriptConsole.Grammar.Automaton
import ScriptConsole.Script.Lexicon

/-!
Parse trees with what they cost. A tree for a text without errors costs nothing; skipped text, missing
tokens and stopping short cost more the more they hide, and the parser keeps what is cheapest. -/
namespace ScriptConsole.Script
open Grammar (Rules Symbol Rename Presentation)

structure Source where
  text : Text
  suffixes : Array Text
  bytes : Array Nat
  rows : Array Nat

namespace Source

def ofText (text : Text) : Source :=
  let places := go text #[] 0 0
  { text := text
    suffixes := places.map (·.1)
    bytes := places.map (·.2.1)
    rows := places.map (·.2.2) }
where
  go : Text → Array (Text × Nat × Nat) → Nat → Nat → Array (Text × Nat × Nat)
    | [], places, bytes, rows => places.push ([], bytes, rows)
    | c :: rest, places, bytes, rows =>
        go rest (places.push (c :: rest, bytes, rows)) (bytes + c.utf8Size)
          (if c = '\n' then rows + 1 else rows)

def after (source : Source) (place : Nat) : Text := source.suffixes.getD place []

def length (source : Source) : Nat := source.suffixes.size - 1

def byte (source : Source) (place : Nat) : Nat := source.bytes.getD place 0

def row (source : Source) (place : Nat) : Nat := source.rows.getD place 0

def slice (source : Source) (start stop : Nat) : Text := (source.after start).take (stop - start)

def column (source : Source) (place : Nat) : Nat :=
  source.byte place - source.byte (lineStart source.row place place)
where
  lineStart (row : Nat → Nat) (place : Nat) : Nat → Nat
    | 0 => 0
    | n + 1 => if row n = row place then lineStart row place n else n + 1

def hidingCost (source : Source) (start stop : Nat) : Nat :=
  (source.byte stop - source.byte start) + 30 * (source.row stop - source.row start)

end Source

inductive Label
  | symbol (symbol : Symbol)
  | error
  | errorPart
  deriving DecidableEq, Repr, Inhabited

namespace Label

def isError : Label → Bool
  | .symbol _ => false
  | _ => true

def token? : Label → Option Nat
  | .symbol (.terminal n) => some n
  | _ => none

def isEnd (label : Label) : Bool := label = .symbol (.terminal 0)

def rank (nonterminalBase : Nat) : Label → Nat
  | .symbol (.terminal n) => n
  | .symbol (.nonterminal n) => nonterminalBase + n
  | .errorPart => 65534
  | .error => 65535

end Label

structure Tree where
  label : Label
  children : List Tree
  -- Where the blanks before it start.
  before : Nat
  start : Nat
  stop : Nat
  -- What it costs, a missing token apart.
  ownCost : Nat
  weight : Int
  shownChildren : Nat
  shownBelow : Nat
  extra : Bool
  missing : Bool
  production : Option Nat
  -- Whether it is a word of the grammar that could be a name.
  keyword : Bool
  deriving Inhabited

structure Tongue where
  rules : Rules
  lexicon : Lexicon
  start : Grammar.State

namespace Tongue

def presentation (tongue : Tongue) : Label → Presentation
  | .error => ⟨"ERROR", true, true⟩
  | .errorPart => ⟨"ERROR", false, false⟩
  | .symbol symbol => tongue.rules.table.presentation symbol

def shows (tongue : Tongue) (label : Label) : Bool := (tongue.presentation label).visible

def rename? (tongue : Tongue) (step : Grammar.Step) : Option Rename :=
  match step.rename, tongue.rules.table.defaultRenames[step.symbol]? with
  | some rename, some usual => if rename = usual then none else some rename
  | rename, _ => rename

def stepsOf (tongue : Tongue) (production : Option Nat) : Array Grammar.Step :=
  match production with
  | some p => (tongue.rules.table.productions.getD p default).steps
  | none => #[]

end Tongue

namespace Tree

def missingCost : Nat := 610

def errorCost : Nat := 500

def skippedCost : Nat := 100

def cost (tree : Tree) : Nat := if tree.missing then missingCost else tree.ownCost

def leaf (label : Label) (before start stop : Nat) : Tree where
  label := label
  children := []
  before := before
  start := start
  stop := stop
  ownCost := 0
  weight := 0
  shownChildren := 0
  shownBelow := 0
  extra := label.isEnd
  missing := false
  production := none
  keyword := false

def missingLeaf (token place : Nat) : Tree :=
  { leaf (.symbol (.terminal token)) place place place with missing := true }

structure Sums where
  cost : Nat := 0
  weight : Int := 0
  shownChildren : Nat := 0
  shownBelow : Nat := 0
  step : Nat := 0

/- Adds a child. Inside an error every node that is no error itself costs. -/
def Sums.add (tongue : Tongue) (steps : Array Grammar.Step) (inError : Bool) (sums : Sums)
    (child : Tree) : Sums :=
  let shown := tongue.shows child.label
  let renamed := !child.extra && !child.label.isEnd &&
    ((steps[sums.step]?).bind tongue.rename?).isSome
  let skipped :=
    if inError && !child.extra && !(child.label = .error && child.children.isEmpty) then
      if shown then skippedCost
      else if child.children.isEmpty then 0 else skippedCost * child.shownChildren
    else 0
  { cost := sums.cost + (if child.label = .errorPart then 0 else child.cost) + skipped
    weight := sums.weight + child.weight
    shownChildren := sums.shownChildren +
      if renamed || shown then 1 else if child.children.isEmpty then 0 else child.shownChildren
    shownBelow := sums.shownBelow + child.shownBelow + if renamed || shown then 1 else 0
    step := if child.extra then sums.step else sums.step + 1 }

def node (tongue : Tongue) (source : Source) (label : Label) (children : List Tree)
    (production : Option Nat) (place : Nat) : Tree :=
  let sums := children.foldl (Sums.add tongue (tongue.stepsOf production) label.isError) {}
  let start := (children.head?.map (·.start)).getD place
  let stop := (children.getLast?.map (·.stop)).getD place
  let own := if label.isError then errorCost + source.hidingCost start stop else 0
  { label := label
    children := children
    before := (children.head?.map (·.before)).getD place
    start := start
    stop := stop
    ownCost := sums.cost + own
    weight := sums.weight
    shownChildren := sums.shownChildren
    shownBelow := sums.shownBelow
    extra := false
    missing := false
    production := production
    keyword := false }

/- How many nodes a tree shows; the parser takes it for how far it got. -/
def shownCount (tongue : Tongue) (tree : Tree) : Nat :=
  tree.shownBelow + (if tongue.shows tree.label then 1 else 0) +
    if tree.label = .errorPart then 1 else 0

def equivalent (a b : Tree) : Bool :=
  a.label = b.label &&
    ((a.cost > 0 && b.cost > 0) ||
      (a.start - a.before = b.start - b.before && a.stop - a.start = b.stop - b.start &&
        a.children.length = b.children.length && a.extra = b.extra))

def order (base : Nat) : Nat → List (Tree × Tree) → Ordering
  | 0, _ => .eq
  | _, [] => .eq
  | fuel + 1, (a, b) :: rest =>
      match compare (a.label.rank base) (b.label.rank base) with
      | .eq =>
          match compare a.children.length b.children.length with
          | .eq => order base fuel (a.children.zip b.children ++ rest)
          | result => result
      | result => result

/- Whether `b` is to be kept rather than `a`: it costs less, or weighs more, or comes before. -/
def yieldsTo (tongue : Tongue) (a b : Tree) : Bool :=
  if b.cost != a.cost then b.cost < a.cost
  else if b.weight != a.weight then b.weight > a.weight
  else if a.cost > 0 then true
  else order tongue.rules.table.terminals.size 1000000 [(a, b)] = .gt

def splitTrailing (trees : List Tree) : List Tree × List Tree :=
  let kept := (trees.reverse.dropWhile (·.extra)).reverse
  (kept, trees.drop kept.length)

end Tree

end ScriptConsole.Script
