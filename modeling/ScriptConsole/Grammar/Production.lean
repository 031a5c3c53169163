import Std.Data.HashMap
import Std.Data.HashSet
import ScriptConsole.Grammar.Form

/-!
A grammar spelled out as productions over numbered symbols. Tokens are numbered by their first use,
the word token before all; every repetition becomes a nonterminal of its own that splits in two
anywhere; choices become separate productions, each step of which keeps the marks it stood under;
and uses of inlined rules are replaced by their productions. -/
namespace ScriptConsole.Grammar

structure Presentation where
  kind : String
  visible : Bool
  named : Bool
  deriving Repr, Inhabited

structure Terminal where
  shape : Shape
  presentation : Presentation
  deriving Repr, Inhabited

inductive Symbol
  | terminal (index : Nat)
  | nonterminal (index : Nat)
  deriving DecidableEq, Repr, Hashable, Inhabited

structure Step where
  symbol : Symbol
  rank : Option Rank
  side : Option Side
  rename : Option Rename
  field : Option String
  asProperty : Bool
  deriving DecidableEq, Repr, Hashable, Inhabited

namespace Step

def nonterminal? (step : Step) : Option Nat :=
  match step.symbol with
  | .nonterminal n => some n
  | .terminal _ => none

def terminal? (step : Step) : Option Nat :=
  match step.symbol with
  | .nonterminal _ => none
  | .terminal n => some n

end Step

structure Body where
  steps : List Step
  weight : Int
  deriving DecidableEq, Repr, Hashable, Inhabited

structure Nonterminal where
  presentation : Presentation
  repetition : Bool
  deriving Repr, Inhabited

namespace Form

def tokens : Form → List Shape
  | .token shape => [shape]
  | .seq a b | .alt a b => tokens a ++ tokens b
  | .many body | .marked _ body => tokens body
  | .blank | .rule _ => []

def repetitions : Form → List Form
  | .seq a b | .alt a b => repetitions a ++ repetitions b
  | .marked _ body => repetitions body
  | .many body => repetitions body ++ [body]
  | .blank | .token _ | .rule _ => []

def alternatives : Form → List Form
  | .alt a b => alternatives a ++ alternatives b
  | .seq a b => (alternatives a).flatMap fun x => (alternatives b).map (.seq x ·)
  | .marked mark body => (alternatives body).map (.marked mark ·)
  | .blank => [.blank]
  | .token shape => [.token shape]
  | .rule name => [.rule name]
  | .many body => [.many body]

def heavier (a b : Int) : Int := if a.natAbs < b.natAbs then b else a

def weight : Form → Int
  | .seq a b => heavier (weight a) (weight b)
  | .marked (.weight amount) body => heavier (heavier 0 amount) (weight body)
  | .marked _ body => weight body
  | _ => 0

structure Marks where
  rank : Option Rank := none
  side : Option Side := none
  rename : Option Rename := none
  field : Option String := none
  asProperty : Bool := false

def Marks.add (marks : Marks) : Mark → Marks
  | .rank rank side => { marks with rank := some rank, side := side <|> marks.side }
  | .weight _ => marks
  | .field name => { marks with field := some name }
  | .rename rename => { marks with rename := some rename }
  | .propertyName => { marks with asProperty := true }

/- How a step binds decides about what follows it, so the last step of a marked form binds as the
form around it does, unless the production ends there. -/
def Marks.release (outer : Marks) (mark : Mark) (atEnd : Bool) (steps : List Step) : List Step :=
  match mark, steps.getLast?, atEnd with
  | .rank _ side, some step, false =>
      let step := { step with rank := outer.rank }
      steps.dropLast ++ [if side.isSome then { step with side := outer.side } else step]
  | _, _, _ => steps

def steps (number : Form → Option Symbol) (marks : Marks) (atEnd : Bool) : Form → List Step
  | .seq a b => steps number marks false a ++ steps number marks atEnd b
  | .marked mark body => marks.release mark atEnd (steps number (marks.add mark) atEnd body)
  | form =>
      match number form with
      | some symbol =>
          [⟨symbol, marks.rank, marks.side, marks.rename, marks.field, marks.asProperty⟩]
      | none => []

end Form

def Pattern.presentation : Pattern → Presentation
  | .regexEnd => ⟨"/", true, false⟩
  | .staticGet => ⟨"static get", false, false⟩
  | .hashBang => ⟨"hash_bang_line", true, true⟩
  | .htmlReference => ⟨"html_character_reference", true, true⟩
  | .markupName => ⟨"jsx_identifier", true, true⟩
  | .doubleMarkupFragment => ⟨"unescaped_double_jsx_string_fragment", true, true⟩
  | .singleMarkupFragment => ⟨"unescaped_single_jsx_string_fragment", true, true⟩
  | .doubleFragment => ⟨"unescaped_double_string_fragment", true, true⟩
  | .singleFragment => ⟨"unescaped_single_string_fragment", true, true⟩
  | .escape => ⟨"escape_sequence", true, true⟩
  | .comment => ⟨"comment", true, true⟩
  | .regexBody => ⟨"regex_pattern", true, true⟩
  | .regexFlags => ⟨"regex_flags", true, true⟩
  | .number => ⟨"number", true, true⟩
  | .name => ⟨"identifier", true, true⟩
  | .privateName => ⟨"private_property_identifier", true, true⟩

def Contextual.presentation : Contextual → Presentation
  | .semicolon => ⟨"_automatic_semicolon", false, true⟩
  | .templateText => ⟨"_template_chars", false, true⟩
  | .ternaryMark => ⟨"_ternary_qmark", false, true⟩
  | .htmlComment => ⟨"html_comment", true, true⟩
  | .markupText => ⟨"jsx_text", true, true⟩

def Shape.presentation (rule? : Option String) : Shape → Presentation
  | .endOfText => ⟨"end", false, false⟩
  | .blanks => ⟨"blanks", false, false⟩
  | .literal text =>
      match rule? with
      | some name => ⟨name, !name.startsWith "_", true⟩
      | none => ⟨text, true, false⟩
  | .pattern which => which.presentation
  | .contextual which => which.presentation

def firstOfEach {α : Type} [BEq α] [Hashable α] (items : List α) : List α :=
  go ∅ items
where
  go (seen : Std.HashSet α) : List α → List α
    | [] => []
    | x :: rest => if seen.contains x then go seen rest else x :: go (seen.insert x) rest

structure Numbering where
  terminals : Array Terminal
  nonterminals : Array Nonterminal
  forms : Array (List Form)
  shapes : Std.HashMap Shape Nat
  rules : Std.HashMap String Symbol
  repetitions : Std.HashMap Form Nat

namespace Numbering

def number? (numbering : Numbering) : Form → Option Symbol
  | .token shape => (numbering.shapes[shape]?).map .terminal
  | .rule name => numbering.rules[name]?
  | .many body => (numbering.repetitions[body]?).map .nonterminal
  | _ => none

def bodies (numbering : Numbering) (index : Nat) : List Body :=
  match numbering.forms[index]? with
  | none => []
  | some forms => firstOfEach (forms.map fun form =>
      ⟨form.steps numbering.number? {} true, form.weight⟩)

end Numbering

namespace Description

def isContextual : Shape → Bool
  | .contextual _ => true
  | _ => false

def shapes (g : Description) : List Shape :=
  let used := firstOfEach (g.rules.flatMap (·.2.tokens))
  [.endOfText, .pattern g.word] ++
    used.filter (fun shape => shape != .pattern g.word && !isContextual shape) ++ [.blanks] ++
    [Contextual.semicolon, .templateText, .ternaryMark, .htmlComment, .markupText].map .contextual

def tokenRules (g : Description) : List (String × Shape) :=
  let uses := g.rules.flatMap (·.2.tokens) |>.foldl
    (fun (counts : Std.HashMap Shape Nat) shape => counts.insert shape (counts.getD shape 0 + 1)) ∅
  g.rules.filterMap fun (name, form) =>
    match form with
    | .token shape => if uses.getD shape 0 = 1 then some (name, shape) else none
    | _ => none

def nonterminal (g : Description) (name : String) : Nonterminal :=
  ⟨⟨name, !(name.startsWith "_" || g.transparent.contains name), true⟩, false⟩

def numbering (g : Description) : Numbering :=
  let tokenRules := g.tokenRules
  let shapes := g.shapes
  let ruleOf (shape : Shape) : Option String := (tokenRules.find? (·.2 == shape)).map (·.1)
  let numbers : Std.HashMap Shape Nat := .ofList shapes.zipIdx
  let rules := g.rules.filter fun (name, _) => tokenRules.all (·.1 != name)
  let repetitions := firstOfEach (rules.flatMap (·.2.repetitions))
  let symbols := rules.zipIdx.map (fun ((name, _), n) => (name, Symbol.nonterminal n)) ++
    tokenRules.filterMap (fun (name, shape) => (numbers[shape]?).map fun n => (name, .terminal n))
  { terminals := (shapes.map fun shape => ⟨shape, shape.presentation (ruleOf shape)⟩).toArray
    nonterminals := (rules.map (g.nonterminal ·.1) ++
      repetitions.map fun _ => Nonterminal.mk ⟨"", false, false⟩ true).toArray
    forms := (rules.map (·.2.alternatives) ++
      repetitions.map fun body => .seq (.many body) (.many body) :: body.alternatives).toArray
    shapes := numbers
    rules := .ofList symbols
    repetitions := .ofList (repetitions.zipIdx rules.length) }

end Description

structure Production where
  owner : Nat
  steps : Array Step
  weight : Int
  deriving Repr, Inhabited

structure Table where
  terminals : Array Terminal
  nonterminals : Array Nonterminal
  productions : Array Production
  productionsOf : Array (Array Nat)
  numberOf : Std.HashMap Shape Nat
  start : Nat
  word : Nat
  extras : List Nat
  reserved : List Nat
  orders : List (List OrderEntry)
  defaultRenames : Std.HashMap Symbol Rename

/-- Replaces the uses of inlined rules. The marks on the use go over those inside. No production
holds more than `fuel` of them. -/
def inlineUses (bodiesOf : Symbol → Option (List Body)) : Nat → Body → List Body
  | 0, body => [body]
  | fuel + 1, body =>
      match body.steps.span fun step => (bodiesOf step.symbol).isNone with
      | (_, []) => [body]
      | (before, use :: after) =>
          ((bodiesOf use.symbol).getD []).flatMap fun inner =>
            inlineUses bodiesOf fuel
              ⟨before ++ inside use inner.steps ++ after, Form.heavier body.weight inner.weight⟩
where
  inside (use : Step) : List Step → List Step
    | [] => []
    | [last] =>
        let step := mark use last
        [{ step with rank := step.rank <|> use.rank, side := step.side <|> use.side }]
    | step :: rest => mark use step :: inside use rest
  mark (use step : Step) : Step :=
    { step with
      rename := use.rename <|> step.rename
      field := use.field <|> step.field
      asProperty := use.asProperty || step.asProperty }

/- The symbols that stand under a rename wherever they are used, with their commonest rename. -/
def defaultRenames (always : List Symbol) (steps : List Step) : Std.HashMap Symbol Rename :=
  let plain := steps.foldl (fun (plain : Std.HashSet Symbol) step =>
    if step.rename.isNone then plain.insert step.symbol else plain) (.ofList always)
  let counts := steps.foldl (fun (counts : Std.HashMap Symbol (List (Rename × Nat))) step =>
    match step.rename with
    | some rename =>
        if plain.contains step.symbol then counts
        else counts.insert step.symbol (count rename (counts.getD step.symbol []))
    | none => counts) ∅
  counts.fold (fun found symbol tallies =>
    match most tallies with
    | some rename => found.insert symbol rename
    | none => found) ∅
where
  count (rename : Rename) : List (Rename × Nat) → List (Rename × Nat)
    | [] => [(rename, 1)]
    | (other, n) :: rest =>
        if other = rename then (other, n + 1) :: rest else (other, n) :: count rename rest
  most : List (Rename × Nat) → Option Rename
    | [] => none
    | first :: rest =>
        some (rest.foldl (fun best next => if best.2 < next.2 then next else best) first).1

def Description.table (g : Description) : Table :=
  let numbering := g.numbering
  let bodies := (List.range numbering.nonterminals.size).map numbering.bodies
  let inlined : Std.HashMap Symbol (List Body) := .ofList (g.inlined.filterMap fun name =>
    match numbering.rules[name]? with
    | some (Symbol.nonterminal n) => some (Symbol.nonterminal n, bodies.getD n [])
    | _ => none)
  let productions := bodies.zipIdx.map fun (own, n) =>
    if inlined.contains (.nonterminal n) then []
    else firstOfEach (own.flatMap (inlineUses (inlined[·]?) 64))
  let numberOf (shape : Shape) : Nat := numbering.shapes.getD shape 0
  let start := match g.rules.head?.bind (fun rule => numbering.rules[rule.1]?) with
    | some (Symbol.nonterminal n) => n
    | _ => 0
  let extras := g.extras.map numberOf
  let starts := productions.scanl (fun total own => total + own.length) 0
  { terminals := numbering.terminals
    nonterminals := numbering.nonterminals
    productions := (productions.zipIdx.flatMap fun (own, n) =>
      own.map fun body => ⟨n, body.steps.toArray, body.weight⟩).toArray
    productionsOf := (productions.zip starts).map (fun (own, first) =>
      (Array.range own.length).map (first + ·)) |>.toArray
    numberOf := numbering.shapes
    start := start
    word := numberOf (.pattern g.word)
    extras := extras
    reserved := g.reservedWords.map fun text => numberOf (.literal text)
    orders := g.orders
    defaultRenames := defaultRenames (.nonterminal start :: extras.map .terminal)
      ((bodies.flatMap fun own => own.flatMap (·.steps)).filter fun step =>
        !inlined.contains step.symbol) }

namespace Table

def presentation (table : Table) (symbol : Symbol) : Presentation :=
  match table.defaultRenames[symbol]?, symbol with
  | some rename, _ => ⟨rename.kind, true, rename.named⟩
  | none, .terminal n => (table.terminals.getD n default).presentation
  | none, .nonterminal n => (table.nonterminals.getD n default).presentation

end Table

end ScriptConsole.Grammar
