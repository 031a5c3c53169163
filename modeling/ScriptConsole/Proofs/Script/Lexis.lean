import ScriptConsole.Script.Lexeme

/-!
The lexical rules of the language, as its standard has them: which texts are tokens, what may stand
between two of them, and that of several tokens the longest is read. What the rules leave to others is
given with a `Lexis`: the letters beyond ASCII, whether a slash behind what was read begins a regular
expression, and where a template ends. The standard's comments for old pages are comments here too.
Which escapes a string or a regular expression may have is not looked at. -/
namespace ScriptConsole.Script

/- The tokens read so far, each with whether a line ended between it and the one before. -/
abbrev Seen := List (Bool × Text)

structure Lexis where
  opens : Char → Bool
  continues : Char → Bool
  slashOpens : Seen → Bool
  template : Text → Prop
  ticked {text : Text} : template text → text.head? = some '\x60'
  whole {text more : Text} : template text → template (text ++ more) → more = []

namespace Lexis

inductive Word
  | whole
  | sign
  | slash
  | unicode
  | digits (left : Nat)
  | braced (some : Bool)
  deriving DecidableEq

inductive Group
  | whole
  | leading
  | octal
  | fraction
  | power
  | hex
  | eight
  | two
  deriving DecidableEq

inductive Numeral
  | zero
  | digits (group : Group) (awaited : Bool)
  | point
  | exponent
  | big
  deriving DecidableEq

inductive Quoted
  | inside
  | escaped
  | returned
  | shut
  deriving DecidableEq

inductive Pattern
  | first
  | inside
  | escaped
  | set
  | setEscaped
  | flags
  deriving DecidableEq

inductive State
  | word (word : Word)
  | numeral (numeral : Numeral)
  | quoted (quote : Char) (quoted : Quoted)
  | pattern (pattern : Pattern)
  | mark (text : Text)
  deriving DecidableEq

def begins (lexis : Lexis) (c : Char) : Bool :=
  isLetter c || c == '_' || c == '$' || (0x80 ≤ c.toNat && lexis.opens c)

def part (lexis : Lexis) (c : Char) : Bool :=
  isLetter c || isDigit c || c == '_' || c == '$' || (0x80 ≤ c.toNat && lexis.continues c)

def marks : List Text :=
  ["\x7b", "\x7d", "(", ")", "[", "]", ".", "...", ";", ",", "<", ">", "<=", ">=", "==", "!=", "===",
    "!==", "+", "-", "*", "/", "%", "**", "++", "--", "<<", ">>", ">>>", "&", "|", "^", "!", "~", "&&",
    "||", "??", "?", "?.", ":", "=", "+=", "-=", "*=", "/=", "%=", "**=", "<<=", ">>=", ">>>=", "&=",
    "|=", "^=", "&&=", "||=", "??=", "=>", "@"].map String.toList

def Word.step (lexis : Lexis) : Word → Char → Option Word
  | .whole, c => if lexis.part c then some .whole else if c = '\\' then some .slash else none
  | .sign, c => if lexis.begins c then some .whole else if c = '\\' then some .slash else none
  | .slash, c => if c = 'u' then some .unicode else none
  | .unicode, c =>
      if isHexDigit c then some (.digits 2) else if c = '\x7b' then some (.braced false) else none
  | .digits 0, c => if isHexDigit c then some .whole else none
  | .digits (left + 1), c => if isHexDigit c then some (.digits left) else none
  | .braced any, c =>
      if isHexDigit c then some (.braced true) else if any && c = '\x7d' then some .whole else none

namespace Group

def digit : Group → Char → Bool
  | .hex => isHexDigit
  | .eight => isOctalDigit
  | .two => fun c => c == '0' || c == '1'
  | _ => isDigit

def behind : Group → Char → Group
  | .octal, c => if isOctalDigit c then .octal else .leading
  | group, _ => group

def isParted (group : Group) : Bool := !([.leading, .octal].contains group)

def isPointed (group : Group) : Bool := [.whole, .leading].contains group

def isRaised (group : Group) : Bool := [.whole, .leading, .fraction].contains group

def isBig (group : Group) : Bool := [.whole, .hex, .eight, .two].contains group

end Group

def isExponent (c : Char) : Bool := c == 'e' || c == 'E'

namespace Numeral

def step : Numeral → Char → Option Numeral
  | .zero, c =>
      if c = 'x' ∨ c = 'X' then some (.digits .hex true)
      else if c = 'o' ∨ c = 'O' then some (.digits .eight true)
      else if c = 'b' ∨ c = 'B' then some (.digits .two true)
      else if c = 'n' then some .big
      else if c = '.' then some .point
      else if isExponent c then some .exponent
      else if isDigit c then some (.digits (Group.behind .octal c) false)
      else none
  | .digits group false, c =>
      if group.digit c then some (.digits (group.behind c) false)
      else if c = '_' ∧ group.isParted then some (.digits group true)
      else if c = '.' ∧ group.isPointed then some .point
      else if isExponent c ∧ group.isRaised then some .exponent
      else if c = 'n' ∧ group.isBig then some .big
      else none
  | .digits group true, c => if group.digit c then some (.digits group false) else none
  | .point, c =>
      if isDigit c then some (.digits .fraction false) else if isExponent c then some .exponent else none
  | .exponent, c =>
      if isDigit c then some (.digits .power false)
      else if c = '+' ∨ c = '-' then some (.digits .power true) else none
  | .big, _ => none

def isWhole : Numeral → Bool
  | .digits _ awaited => !awaited
  | .exponent => false
  | _ => true

def isPointed : Numeral → Bool
  | .zero => true
  | .digits group awaited => group.isPointed && !awaited
  | _ => false

end Numeral

def Quoted.step (quote : Char) : Quoted → Char → Option Quoted
  | .shut, _ => none
  | .escaped, c => some (if c = '\r' then .returned else .inside)
  | quoted, c =>
      if quoted = .returned ∧ c = '\n' then some .inside
      else if c = quote then some .shut
      else if c = '\\' then some .escaped
      else if c = '\n' ∨ c = '\r' then none
      else some .inside

def Pattern.step (lexis : Lexis) : Pattern → Char → Option Pattern
  | .flags, c => if lexis.part c then some .flags else none
  | .escaped, c => if endsLine c then none else some .inside
  | .setEscaped, c => if endsLine c then none else some .set
  | .set, c =>
      if endsLine c then none
      else some (if c = ']' then .inside else if c = '\\' then .setEscaped else .set)
  | pattern, c =>
      if endsLine c ∨ (pattern = .first ∧ (c = '*' ∨ c = '/')) then none
      else some (if c = '/' then .flags else if c = '\\' then .escaped else if c = '[' then .set else .inside)

def leads (text : Text) : Bool := marks.any text.isPrefixOf

namespace State

def step (lexis : Lexis) : State → Char → Option State
  | .word w, c => (w.step lexis c).map .word
  | .numeral n, c => (n.step c).map .numeral
  | .quoted quote q, c => (q.step quote c).map (.quoted quote)
  | .pattern p, c => (p.step lexis c).map .pattern
  | .mark text, c =>
      if text = ['.'] ∧ isDigit c then some (.numeral (.digits .fraction false))
      else if leads (text ++ [c]) then some (.mark (text ++ [c])) else none

def isWhole : State → Bool
  | .word w => w = .whole
  | .numeral n => n.isWhole
  | .quoted _ q => q = .shut
  | .pattern p => p = .flags
  | .mark text => marks.contains text

end State

def start (lexis : Lexis) (slashOpens : Bool) (c : Char) : Option State :=
  if lexis.begins c then some (.word .whole)
  else if c = '\\' then some (.word .slash)
  else if c = '#' then some (.word .sign)
  else if c = '0' then some (.numeral .zero)
  else if isDigit c then some (.numeral (.digits .whole false))
  else if c = '"' ∨ c = '\'' then some (.quoted c .inside)
  else if c = '/' ∧ slashOpens then some (.pattern .first)
  else if leads [c] then some (.mark [c])
  else none

def scan (lexis : Lexis) (slashOpens : Bool) : Text → Option State
  | [] => none
  | c :: rest => (lexis.start slashOpens c).bind fun state => rest.foldlM (State.step lexis) state

/- A question mark and a point are one mark only if no digit follows, so that a number may. -/
def heads (mark text : Text) : Bool :=
  mark.isPrefixOf text && !(mark == ['?', '.'] && (text.drop 2).head?.any isDigit)

def State.Holds (state : State) (rest : Text) : Prop :=
  state.isWhole = true ∧ ∀ text, state = .mark text → heads text (text ++ rest) = true

def Fits (lexis : Lexis) (slashOpens : Bool) (token rest : Text) : Prop :=
  lexis.template token ∨ ∃ state, lexis.scan slashOpens token = some state ∧ state.Holds rest

structure Longest (lexis : Lexis) (slashOpens : Bool) (token rest : Text) : Prop where
  fits : lexis.Fits slashOpens token rest
  longest {more left : Text} : rest = more ++ left → lexis.Fits slashOpens (token ++ more) left → more = []
  numeral {numeral : Numeral} : lexis.scan slashOpens token = some (.numeral numeral) →
    rest.head?.any (fun c => lexis.begins c || isDigit c || c == '\\') = false

/- What is skipped between tokens; the third mark of old pages counts at the head of a line only. -/
def lineMarks (fresh : Bool) : List Text :=
  ["//".toList, "<!--".toList] ++ if fresh then ["-->".toList] else []

def skips (fresh : Bool) (text : Text) : Bool :=
  text.head?.any isGap || ("/*".toList :: lineMarks fresh).any (·.isPrefixOf text)

inductive Passes : Bool → Text → Text → Text → Prop
  | done {fresh text} : skips fresh text = false → Passes fresh text [] text
  | blank {fresh c text gap rest} : isGap c = true → Passes (fresh || endsLine c) text gap rest →
      Passes fresh (c :: text) (c :: gap) rest
  | line {fresh mark body text gap rest} : mark ∈ lineMarks fresh → body.any endsLine = false →
      text.head?.all endsLine = true → Passes fresh text gap rest →
      Passes fresh (mark ++ body ++ text) (mark ++ body ++ gap) rest
  | block {fresh body text gap rest} : ¬ "*/".toList <:+: body →
      Passes (fresh || body.any endsLine) text gap rest →
      Passes fresh ("/*".toList ++ body ++ "*/".toList ++ text) ("/*".toList ++ body ++ "*/".toList ++ gap) rest

structure Piece where
  gap : Text
  token : Text
  deriving DecidableEq

def Piece.broken (piece : Piece) : Bool := piece.gap.any endsLine

def Piece.seen (piece : Piece) (before : Seen) : Seen :=
  before ++ [(!before.isEmpty && piece.broken, piece.token)]

inductive Reads (lexis : Lexis) : Seen → Text → List Piece → Prop
  | done {seen text gap} : Passes seen.isEmpty text gap [] → Reads lexis seen text []
  | next {seen text piece rest pieces} : Passes seen.isEmpty text piece.gap (piece.token ++ rest) →
      lexis.Longest (lexis.slashOpens seen) piece.token rest →
      Reads lexis (piece.seen seen) rest pieces → Reads lexis seen text (piece :: pieces)

def State.grows (lexis : Lexis) : State → Text → Bool
  | .word _, rest => rest.head?.any fun c => lexis.part c || c == '\\'
  | .numeral n, rest =>
      rest.head?.any fun c => lexis.begins c || isDigit c || c == '\\' || (c == '.' && n.isPointed)
  | .quoted .., _ => false
  | .pattern _, rest => rest.head?.any lexis.part
  | .mark text, rest =>
      marks.any (fun mark => text.length < mark.length && heads mark (text ++ rest)) ||
        !heads text (text ++ rest) || (text == ['.'] && rest.head?.any isDigit)

/- Whether a piece that was read behind others is no longer read where another text follows. -/
def runs (lexis : Lexis) (seen : Seen) (piece : Piece) (rest : Text) : Bool :=
  skips (seen.isEmpty || piece.broken) (piece.token ++ rest) ||
    (lexis.scan (lexis.slashOpens seen) piece.token).any (·.grows lexis rest)

end Lexis

end ScriptConsole.Script
