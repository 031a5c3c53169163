import ScriptConsole.Syntax.Continuation

/-! Script text as tokens with blanks between them. A template holds rows of tokens again, to any
depth. Whether a row's closers match is read off its brackets alone, with a stack, and what it ends
on off its last significant token. -/
namespace ScriptConsole.Continuation

structure Word where
  head : Char
  body : Text
  headFits : (Text.isWord head && !head.isDigit) = true
  bodyFits : body.all Text.isWord = true

def Word.text (w : Word) : Text := w.head :: w.body

/- A digit and what goes on like a number: digits, letters of a base, a suffix or an exponent, and
dots. -/
structure Digits where
  head : Char
  body : Text
  headFits : head.isDigit = true
  bodyFits : body.all (fun c => Text.isWord c || c = '.') = true

def Digits.text (d : Digits) : Text := d.head :: d.body

abbrev Sign := {c : Char // c = '+' ∨ c = '-'}

structure Number where
  -- Whether a dot stands before the first digit.
  dotted : Bool
  digits : Digits
  -- The exponent, where it has a sign.
  exponent : Option (Sign × Digits)

def Number.text (n : Number) : Text :=
  (if n.dotted then ['.'] else []) ++ n.digits.text ++
    match n.exponent with
    | some (sign,digits) => sign.val :: digits.text
    | none => []

inductive Piece
  | plain (c : Char)
  | escaped (c : Char)

def Piece.text : Piece → Text
  | .plain c => [c]
  | .escaped c => ['\\',c]

def Piece.fits (stops : List Char) : Piece → Bool
  | .plain c => c != '\\' && !stops.contains c
  | .escaped _ => true

def spell (pieces : List Piece) : Text := pieces.flatMap Piece.text

structure Quoted where
  quote : Char
  pieces : List Piece
  quoteFits : quote = '\'' ∨ quote = '"'
  piecesFit : pieces.all (Piece.fits [quote,'\n']) = true

def Quoted.start (q : Quoted) : Text := q.quote :: spell q.pieces
def Quoted.text (q : Quoted) : Text := q.start ++ [q.quote]

structure Remark where
  body : Text
  bodyFits : ¬ ['*','/'] <:+: body

def Remark.start (r : Remark) : Text := '/' :: '*' :: r.body
def Remark.text (r : Remark) : Text := r.start ++ ['*','/']

structure Note where
  body : Text
  bodyFits : '\n' ∉ body

def Note.text (n : Note) : Text := '/' :: '/' :: n.body ++ ['\n']

inductive Atom
  | piece (p : Piece)
  | among (pieces : List Piece)

def Atom.text : Atom → Text
  | .piece p => p.text
  | .among pieces => '[' :: spell pieces ++ [']']

def Atom.fits : Atom → Bool
  | .piece p => p.fits ['/','[','\n']
  | .among pieces => pieces.all (Piece.fits [']','\n'])

structure Regex where
  first : Atom
  more : List Atom
  flags : Text
  firstFits : first.fits = true
  firstOpens : first.text.head? ≠ some '*'
  moreFit : more.all Atom.fits = true
  flagsFit : flags.all Text.isWord = true

def Regex.text (r : Regex) : Text :=
  '/' :: (r.first.text ++ (r.more.flatMap Atom.text ++ '/' :: r.flags))

/- Any character that starts no other token. The slash is one only after an operand. -/
structure Operator where
  char : Char
  notBlank : Text.isBlank char = false
  notWord : Text.isWord char = false
  notOther : char ∉ ['\'','"','`','{','}','(',')','[',']',';']

inductive Bracket
  | brace | paren | bracket
  deriving DecidableEq, Repr

def Bracket.opening : Bracket → Opening
  | .brace => .brace
  | .paren => .paren
  | .bracket => .bracket

def Bracket.opens : Bracket → Char
  | .brace => '{'
  | .paren => '('
  | .bracket => '['

def Bracket.closes : Bracket → Char
  | .brace => '}'
  | .paren => ')'
  | .bracket => ']'

mutual

inductive Token
  | word (w : Word)
  | number (n : Number)
  | quoted (q : Quoted)
  | template (chunks : Chunks)
  | remark (r : Remark)
  | note (n : Note)
  | regex (r : Regex)
  | opener (b : Bracket)
  | closer (b : Bracket)
  | semicolon
  | twice (sign : Sign)
  | operator (o : Operator)

inductive Chunks
  | done
  | piece (p : Piece) (rest : Chunks)
  | part (held : Row) (rest : Chunks)

inductive Row
  | done (gap : Text)
  | next (gap : Text) (token : Token) (rest : Row)

end

mutual

def Token.text : Token → Text
  | .word w => w.text
  | .number n => n.text
  | .quoted q => q.text
  | .template chunks => '`' :: (chunks.text ++ ['`'])
  | .remark r => r.text
  | .note n => n.text
  | .regex r => r.text
  | .opener b => [b.opens]
  | .closer b => [b.closes]
  | .semicolon => [';']
  | .twice sign => [sign.val,sign.val]
  | .operator o => [o.char]

def Chunks.text : Chunks → Text
  | .done => []
  | .piece p rest => p.text ++ rest.text
  | .part held rest => '$' :: '{' :: (held.text ++ '}' :: rest.text)

def Row.text : Row → Text
  | .done gap => gap
  | .next gap token rest => gap ++ (token.text ++ rest.text)

end

/-! ## The last significant token -/

def Token.after (last : Tail) : Token → Tail
  | .word w => if expressionKeywords.contains (String.ofList w.text) then .keyword else .operand
  | .number _ | .quoted _ | .template _ | .regex _ | .closer _ => .operand
  | .remark _ | .note _ => last
  | .opener _ | .semicolon => .start
  | .twice _ => if last = .operand then .operand else .operator
  | .operator _ => .operator

def Row.last (last : Tail) : Row → Tail
  | .done _ => last
  | .next _ token rest => rest.last (token.after last)

/-! ## Brackets -/

inductive Outcome
  | reached (opened : List Bracket)
  | mismatched
  -- A closing brace where no bracket is open: inside a template it ends the part.
  | left
  deriving DecidableEq, Repr

def Bracket.match (b : Bracket) : List Bracket → Outcome
  | top :: rest => if top = b then .reached rest else .mismatched
  | [] => if b = .brace then .left else .mismatched

mutual

def Token.brackets (opened : List Bracket) : Token → Outcome
  | .opener b => .reached (b :: opened)
  | .closer b => b.match opened
  | .template chunks => if chunks.matched then .reached opened else .mismatched
  | _ => .reached opened

def Chunks.matched : Chunks → Bool
  | .done => true
  | .piece _ rest => rest.matched
  | .part held rest => held.brackets [] = .reached [] && rest.matched

def Row.brackets (opened : List Bracket) : Row → Outcome
  | .done _ => .reached opened
  | .next _ token rest =>
      match token.brackets opened with
      | .reached now => rest.brackets now
      | stopped => stopped

end

/-! ## Which rows are written as they are read -/

def Token.apart : Token → Bool
  | .note _ => false
  | _ => true

def gapFits (apart : Bool) (gap : Text) : Bool := gap.all Text.isBlank && !(apart && gap.isEmpty)

def Outcome.inside : Outcome → Bool
  | .left | .reached (.brace :: _) => false
  | _ => true

mutual

def Token.fits (last : Tail) : Token → Bool
  | .template chunks => chunks.fits false
  | .regex _ => last != .operand
  | .operator o => o.char != '/' || last = .operand
  | _ => true

def Chunks.fits (dollar : Bool) : Chunks → Bool
  | .done => true
  | .piece (.plain c) rest =>
      c != '\\' && c != '`' && !(dollar && c = '{') && rest.fits (c = '$')
  | .piece (.escaped _) rest => rest.fits false
  | .part held rest =>
      held.fits .start false && (held.brackets []).inside && rest.fits false

def Row.fits (last : Tail) (apart : Bool) : Row → Bool
  | .done gap => gap.all Text.isBlank
  | .next gap token rest =>
      gapFits apart gap && token.fits last && rest.fits (token.after last) token.apart

end

def Row.parts (apart : Bool) : Row → Bool
  | .done gap => !(apart && gap.isEmpty)
  | .next _ token rest => rest.parts token.apart

/-! ## Endings that stop inside a construct -/

/- The flag tells whether a backslash stands last, with nothing behind it to escape. -/
inductive Cut
  | remark (r : Remark)
  | quoted (q : Quoted) (escaping : Bool)
  | template (chunks : Chunks) (escaping : Bool)
  | part (chunks : Chunks) (held : Row)
  | within (chunks : Chunks) (held : Row) (inner : Cut)

def escapeMark (escaping : Bool) : Text := if escaping then ['\\'] else []

def Cut.text : Cut → Text
  | .remark r => r.start
  | .quoted q escaping => q.start ++ escapeMark escaping
  | .template chunks escaping => '`' :: (chunks.text ++ escapeMark escaping)
  | .part chunks held => '`' :: (chunks.text ++ '$' :: '{' :: held.text)
  | .within chunks held inner => '`' :: (chunks.text ++ '$' :: '{' :: (held.text ++ inner.text))

def Outcome.isReached : Outcome → Bool
  | .reached _ => true
  | _ => false

def Cut.matched : Cut → Bool
  | .remark _ | .quoted _ _ => true
  | .template chunks _ => chunks.matched
  | .part chunks held => chunks.matched && (held.brackets []).isReached
  | .within chunks held inner =>
      chunks.matched && (held.brackets []).isReached && inner.matched

def openFits (chunks : Chunks) (held : Row) : Bool :=
  chunks.fits false && held.fits .start false && held.brackets [] != .left

def Cut.fits : Cut → Bool
  | .remark _ | .quoted _ _ => true
  | .template chunks _ => chunks.fits false
  | .part chunks held => openFits chunks held
  | .within chunks held inner => openFits chunks held && held.parts false && inner.fits

end ScriptConsole.Continuation
