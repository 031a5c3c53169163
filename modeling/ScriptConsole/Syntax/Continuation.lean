import ScriptConsole.Text.Class

/-!
Whether a source stops in the middle of a construct: an open bracket, an unfinished literal or
comment, or a trailing operator. The scan is an automaton that reads one character at a time, with
a stack of the brackets and templates still open, so a text is read on from where a shorter one
stopped. A closer without its opener, a newline inside quotes and an unfinished regular expression
make the text wrong rather than unfinished. -/
namespace ScriptConsole.Continuation

/-- A construct still waiting for its closer; a substitution is the `$` bracket of a template. -/
inductive Opening
  | brace | paren | bracket | template | substitution
  deriving DecidableEq, Repr

inductive Tail
  | start
  | operand
  | operator
  -- A word after which an expression starts.
  | keyword
  deriving DecidableEq, Repr

/- What the scan is inside of. A slash, a sign or a dollar is kept until the next character tells
what it is. -/
inductive Mode
  | code (tail : Tail)
  -- Inside a word or number; its characters, last first.
  | word (numeric : Bool) (seen : Text)
  | slash (tail : Tail)
  | sign (tail : Tail) (which : Char)
  | lineComment (tail : Tail)
  | blockComment (tail : Tail) (star : Bool)
  | quoted (quote : Char) (escaped : Bool)
  | regex (inClass escaped : Bool)
  | regexFlags
  | template (escaped dollar : Bool)
  -- The text is wrong, whatever follows.
  | wrong
  deriving DecidableEq, Repr

structure State where
  stack : List Opening
  mode : Mode
  deriving DecidableEq, Repr

def State.start : State := ⟨[], .code .start⟩

def expressionKeywords : List String :=
  ["return", "typeof", "instanceof", "in", "of", "new", "delete", "void", "throw", "case", "do",
   "else", "yield", "await"]

def wordTail (seen : Text) : Tail :=
  if expressionKeywords.contains (String.ofList seen.reverse) then .keyword else .operand

def stepTail (tail : Tail) : Tail := if tail = .operand then .operand else .operator

def afterCloser : List Opening → Mode
  | .template :: _ => .template false false
  | _ => .code .operand

def close (closes : Opening → Bool) : List Opening → State
  | top :: rest => if closes top then ⟨rest, afterCloser rest⟩ else ⟨top :: rest, .wrong⟩
  | [] => ⟨[], .wrong⟩

def codeStep (stack : List Opening) (tail : Tail) (c : Char) : State :=
  if Text.isBlank c then ⟨stack, .code tail⟩
  else if c = '/' then ⟨stack, .slash tail⟩
  else if c = '\'' || c = '"' then ⟨stack, .quoted c false⟩
  else if c = '`' then ⟨.template :: stack, .template false false⟩
  else if c = '{' then ⟨.brace :: stack, .code .start⟩
  else if c = '(' then ⟨.paren :: stack, .code .start⟩
  else if c = '[' then ⟨.bracket :: stack, .code .start⟩
  else if c = '}' then close (fun o => o = .brace || o = .substitution) stack
  else if c = ')' then close (· = .paren) stack
  else if c = ']' then close (· = .bracket) stack
  else if c = '+' || c = '-' then ⟨stack, .sign tail c⟩
  else if c = ';' then ⟨stack, .code .start⟩
  else if Text.isWord c then ⟨stack, .word ('0' ≤ c && c ≤ '9') [c]⟩
  else ⟨stack, .code .operator⟩

def regexStep (stack : List Opening) (inClass escaped : Bool) (c : Char) : State :=
  if escaped then ⟨stack, .regex inClass false⟩
  else if c = '\\' then ⟨stack, .regex inClass true⟩
  else if c = '\n' then ⟨stack, .wrong⟩
  else if c = '[' then ⟨stack, .regex true false⟩
  else if c = ']' then ⟨stack, .regex false false⟩
  else if c = '/' && !inClass then ⟨stack, .regexFlags⟩
  else ⟨stack, .regex inClass false⟩

def templateStep (stack : List Opening) (escaped dollar : Bool) (c : Char) : State :=
  if escaped then ⟨stack, .template false false⟩
  else if c = '\\' then ⟨stack, .template true false⟩
  else if c = '`' then ⟨stack.drop 1, .code .operand⟩
  else if c = '{' && dollar then ⟨.substitution :: stack, .code .start⟩
  else ⟨stack, .template false (c = '$')⟩

def step (s : State) (c : Char) : State :=
  match s.mode with
  | .code tail => codeStep s.stack tail c
  | .word numeric seen =>
      if Text.isWord c || (numeric && c = '.') then ⟨s.stack, .word numeric (c :: seen)⟩
      else codeStep s.stack (wordTail seen) c
  | .slash tail =>
      if c = '/' then ⟨s.stack, .lineComment tail⟩
      else if c = '*' then ⟨s.stack, .blockComment tail false⟩
      else if tail = .operand then codeStep s.stack .operator c
      else regexStep s.stack false false c
  | .sign tail which =>
      if c = which then ⟨s.stack, .code (stepTail tail)⟩ else codeStep s.stack .operator c
  | .lineComment tail => ⟨s.stack, if c = '\n' then .code tail else .lineComment tail⟩
  | .blockComment tail star =>
      ⟨s.stack, if star && c = '/' then .code tail else .blockComment tail (c = '*')⟩
  | .quoted quote escaped =>
      if escaped then ⟨s.stack, .quoted quote false⟩
      else if c = '\\' then ⟨s.stack, .quoted quote true⟩
      else if c = '\n' then ⟨s.stack, .wrong⟩
      else if c = quote then ⟨s.stack, .code .operand⟩
      else ⟨s.stack, .quoted quote false⟩
  | .regex inClass escaped => regexStep s.stack inClass escaped c
  | .regexFlags =>
      if Text.isWord c then s else codeStep s.stack .operand c
  | .template escaped dollar => templateStep s.stack escaped dollar c
  | .wrong => s

def State.unfinished (s : State) : Bool :=
  match s.mode with
  | .code tail | .lineComment tail => !s.stack.isEmpty || tail = .operator
  | .word _ _ | .regexFlags => !s.stack.isEmpty
  | .slash tail => tail = .operand
  | .sign _ _ | .blockComment _ _ | .quoted _ _ | .template _ _ => true
  | .regex _ _ | .wrong => false

def run (s : State) (t : Text) : State := t.foldl step s

def endsInside (source : Text) : Bool := (run .start (Text.trimEnd source)).unfinished

end ScriptConsole.Continuation
