import ScriptConsole.Grammar.Production

/-!
Which tokens a symbol can start with, and what the productions of a nonterminal bring in when it is
expected: each nonterminal that can come first, with the tokens that can follow it there. Sets of
tokens are bits of a number; one bit past the tokens stands for a name where a property is named. -/
namespace ScriptConsole.Grammar

/- A set of tokens; token `n` is in it when bit `n` is set. -/
abbrev TokenSet := Nat

namespace TokenSet

def single (n : Nat) : TokenSet := 1 <<< n

end TokenSet

namespace Table

def propertyBit (table : Table) : Nat := table.terminals.size

def stepFirst (table : Table) (first : Array TokenSet) (step : Step) : TokenSet :=
  match step.symbol with
  | .terminal n =>
      if n = table.word && step.asProperty then .single n ||| .single table.propertyBit
      else .single n
  | .nonterminal n => first.getD n 0

def firstRound (table : Table) (first : Array TokenSet) : Array TokenSet :=
  table.productions.foldl (fun first production =>
    match production.steps[0]? with
    | some step => first.modify production.owner (· ||| table.stepFirst first step)
    | none => first) first

/- Rounds until nothing changes, at most `fuel` of them. -/
def firstRounds (table : Table) : Nat → Array TokenSet → Array TokenSet
  | 0, first => first
  | fuel + 1, first =>
      let next := table.firstRound first
      if next == first then first else firstRounds table fuel next

/- The tokens that each nonterminal can start with. A nonterminal learns of a token from one that
can come first in it, so there are no more rounds than nonterminals. -/
def firstSets (table : Table) : Array TokenSet :=
  table.firstRounds (table.nonterminals.size + 1) (.replicate table.nonterminals.size 0)

end Table

/-- What may follow a nonterminal that comes first in another: these tokens, and with `ofWhole` also
whatever follows the other. -/
structure Following where
  tokens : TokenSet
  ofWhole : Bool
  deriving DecidableEq, Repr, Inhabited

def Following.of (following : Following) (after : TokenSet) : TokenSet :=
  if following.ofWhole then following.tokens ||| after else following.tokens

namespace Table

def followingFirst (table : Table) (first : Array TokenSet) (outer : Following)
    (production : Production) : Following :=
  match production.steps[1]? with
  | some step => ⟨table.stepFirst first step, false⟩
  | none => outer

def noteFollowing (found : Array (Option Following) × List Nat) (n : Nat) (new : Following) :
    Array (Option Following) × List Nat :=
  match found.1.getD n none with
  | none => (found.1.set! n (some new), n :: found.2)
  | some old =>
      let both : Following := ⟨old.tokens ||| new.tokens, old.ofWhole || new.ofWhole⟩
      if both = old then found else (found.1.set! n (some both), n :: found.2)

/- Follows the nonterminals that can come first. `todo` holds those whose entry changed. -/
def spreadFollowing (table : Table) (first : Array TokenSet) :
    Nat → Array (Option Following) × List Nat → Array (Option Following)
  | 0, (found, _) => found
  | _, (found, []) => found
  | fuel + 1, (found, n :: todo) =>
      let outer := (found.getD n none).getD ⟨0, false⟩
      spreadFollowing table first fuel <|
        (table.productionsOf.getD n #[]).foldl (fun found p =>
          let production := table.productions.getD p default
          match production.steps[0]?.bind Step.nonterminal? with
          | some m => noteFollowing found m (table.followingFirst first outer production)
          | none => found) (found, todo)

/-- The nonterminals that can come first in nonterminal `n`, itself included, with what may follow
each. Every entry can change once for each token and once more, which bounds the work. -/
def following (table : Table) (first : Array TokenSet) (n : Nat) : Array (Option Following) :=
  table.spreadFollowing first
    (table.nonterminals.size * (table.terminals.size + 3))
    ((Array.replicate table.nonterminals.size none).set! n (some ⟨0, true⟩), [n])

end Table

end ScriptConsole.Grammar
