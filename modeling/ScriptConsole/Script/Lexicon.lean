import Std.Data.HashMap
import ScriptConsole.Script.Lexeme
import ScriptConsole.Grammar.Production

/-!
The tokens of a grammar as they are looked for in a text. Of the tokens that are allowed at a place
an urgent one is taken before others, then the longest, and of two equally long ones a spelling
before a pattern. Words of the grammar are read as names first. -/
namespace ScriptConsole.Script
open Grammar (Table Terminal Shape)

structure PatternToken where
  token : Nat
  regular : Regular
  urgent : Bool

structure Lexicon where
  immediate : List PatternToken
  patterns : List PatternToken
  spellings : List (Nat × Text)
  keywords : Std.HashMap String Nat
  name : Nat
  -- Tokens that are not looked for in a text that fits nowhere.
  never : List Nat
  -- Tokens that end no error.
  noRestart : List Nat
  -- The tokens that a missing one is looked for among.
  candidates : List Nat

namespace Lexicon

def isWord (text : Text) : Bool :=
  match text with
  | [] => false
  | c :: rest => isMarkupStart c && rest.all isMarkupPart

def insideTokens : List Shape :=
  [.pattern .doubleFragment, .pattern .singleFragment, .pattern .doubleMarkupFragment,
    .pattern .singleMarkupFragment, .pattern .regexFlags, .pattern .markupName,
    .pattern .htmlReference, .literal "/>"]

def ofTable (table : Table) : Lexicon :=
  let tokens := table.terminals.toList.zipIdx
  let patterns := tokens.filterMap fun (terminal, n) =>
    match terminal.shape with
    | .pattern which => some (which, PatternToken.mk n (Lexeme.regular which)
        (Lexeme.isUrgent which))
    | _ => none
  let literals := tokens.filterMap fun (terminal, n) =>
    match terminal.shape with
    | .literal text => some (n, text.toList)
    | _ => none
  let inside := insideTokens.map (table.numberOf.getD · 0)
  { immediate := (patterns.filter fun p => Lexeme.isImmediate p.1).map (·.2)
    patterns := (patterns.filter fun p => !Lexeme.isImmediate p.1).map (·.2)
    spellings := literals.filter (!isWord ·.2)
    keywords := .ofList ((literals.filter (isWord ·.2)).map fun (n, text) => (String.ofList text, n))
    name := table.word
    never := table.numberOf.getD (.pattern .regexBody) 0 :: inside
    noRestart := inside
    candidates := (tokens.filter fun (terminal, n) => n > 0 && terminal.shape != .blanks).map (·.2) }

inductive Scan
  | token (which start stop : Nat)
  | stuck (start stop : Nat)
  deriving Repr

structure Candidate where
  token : Nat
  urgent : Bool
  length : Nat
  -- 2 for a spelling, 1 for a token without blanks before it, 0 otherwise.
  order : Nat

def Candidate.before (a b : Candidate) : Bool :=
  if a.urgent != b.urgent then a.urgent
  else if a.length != b.length then a.length > b.length
  else a.order > b.order

def best : List Candidate → Option Candidate
  | [] => none
  | first :: rest => some (rest.foldl (fun best c => if c.before best then c else best) first)

def fit (order : Nat) (text : Text) (p : PatternToken) : Option Candidate :=
  match p.regular.longest? text with
  | some n => if n = 0 then none else some ⟨p.token, p.urgent, n, order⟩
  | none => none

def scan (lexicon : Lexicon) (allowed : Nat → Bool) (start : Nat) (text : Text) : Scan :=
  let immediate := best ((lexicon.immediate.filter (allowed ·.token)).filterMap (fit 1 text))
  let blanks := text.takeWhile isGap
  let rest := text.dropWhile isGap
  let begin := start + blanks.length
  match immediate, !blanks.isEmpty || immediate.any (·.urgent) with
  | some c, true => .token c.token start (start + c.length)
  | _, _ =>
      match rest, immediate with
      | [], some c => .token c.token start (start + c.length)
      | [], none => if allowed 0 then .token 0 begin begin else .stuck begin begin
      | rest, _ =>
          let words := allowed lexicon.name || lexicon.keywords.any fun _ n => allowed n
          let patterns := lexicon.patterns.filter fun p =>
            if p.token = lexicon.name then words else allowed p.token
          let spelled := (lexicon.spellings.filter fun (n, text) =>
            allowed n && text.isPrefixOf rest).map fun (n, text) =>
              Candidate.mk n false text.length 2
          match best (immediate.toList ++ patterns.filterMap (fit 0 rest) ++ spelled) with
          | some c => .token c.token begin (begin + c.length)
          | none =>
              let tried := patterns ++
                if blanks.isEmpty then lexicon.immediate.filter (allowed ·.token) else []
              .stuck begin (begin + (tried.map (·.regular.reach rest)).foldl max 0)

end Lexicon

end ScriptConsole.Script
