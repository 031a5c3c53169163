import ScriptConsole.Text.Regular
import ScriptConsole.Grammar.Form

/-!
What tokens are made of: the classes of characters, and a regular expression for each token that is
known by a pattern. A token that is read without skipping blanks first is a continuation of the one
before it. -/
namespace ScriptConsole.Script

def isDigit (c : Char) : Bool := '0' ≤ c && c ≤ '9'

def isHexDigit (c : Char) : Bool :=
  isDigit c || ('a' ≤ c && c ≤ 'f') || ('A' ≤ c && c ≤ 'F')

def isOctalDigit (c : Char) : Bool := '0' ≤ c && c ≤ '7'

def isLetter (c : Char) : Bool := ('a' ≤ c && c ≤ 'z') || ('A' ≤ c && c ≤ 'Z')

def isSpace (c : Char) : Bool := c == ' ' || (0x09 ≤ c.toNat && c.toNat ≤ 0x0D)

def isWhite (c : Char) : Bool :=
  isSpace c || [0x85, 0xA0, 0x1680, 0x2028, 0x2029, 0x202F, 0x205F, 0x3000].contains c.toNat ||
    (0x2000 ≤ c.toNat && c.toNat ≤ 0x200A)

def isGap (c : Char) : Bool := isWhite c || [0x200B, 0x2060, 0xFEFF].contains c.toNat

def isLineSeparator (c : Char) : Bool := c.toNat == 0x2028 || c.toNat == 0x2029

def endsLine (c : Char) : Bool := c == '\n' || c == '\r' || isLineSeparator c

def isPunctuation (c : Char) : Bool :=
  ":;\x60\"'@#.,|^&<=>+-*/\\%?!~()[]\x7b\x7d".toList.contains c

def isNamePart (c : Char) : Bool := 0x1F < c.toNat && !isGap c && !isPunctuation c

def isNameStart (c : Char) : Bool := isNamePart c && !isDigit c

def isMarkupStart (c : Char) : Bool := isLetter c || c == '_' || c == '$'

def isMarkupPart (c : Char) : Bool := isMarkupStart c || isDigit c

namespace Lexeme
open Regular

def hexDigits (least more : Nat) : Regular := times (.one isHexDigit) least more

def unicodeEscape : Regular :=
  andThen (word "\\u") (orElse (hexDigits 4 0)
    (concat [char '\x7b', plus (.one isHexDigit), char '\x7d']))

def name : Regular :=
  .seq (orElse (.one isNameStart) unicodeEscape) (.star (orElse (.one isNamePart) unicodeEscape))

def digits (isDigit : Char → Bool) : Regular := separated (.one isDigit) (char '_')

def exponent : Regular :=
  concat [.one fun c => c == 'e' || c == 'E', optional (.one fun c => c == '+' || c == '-'),
    digits isDigit]

def based (letters : List Char) (isDigit : Char → Bool) : Regular :=
  concat [char '0', .one letters.contains, digits isDigit]

def wholePart : Regular :=
  orElse (char '0') (concat [optional (char '0'), .one fun c => isDigit c && c != '0',
    optional (andThen (optional (char '_')) (digits isDigit))])

def wholeNumber : Regular :=
  anyOf [based ['x', 'X'] isHexDigit, based ['b', 'B'] fun c => c == '0' || c == '1',
    based ['o', 'O'] isOctalDigit, digits isDigit]

def number : Regular :=
  anyOf [concat [wholePart, char '.', optional (digits isDigit), optional exponent],
    concat [char '.', digits isDigit, optional exponent],
    concat [wholePart, exponent],
    andThen wholeNumber (optional (char 'n'))]

def comment : Regular :=
  orElse (andThen (word "//") (.star (.one (!endsLine ·))))
    (concat [word "/*", .star (.one (· != '*')), plus (char '*'),
      .star (concat [.one fun c => c != '/' && c != '*', .star (.one (· != '*')),
        plus (char '*')]),
      char '/'])

def fragment (quote : Char) : Regular :=
  plus (.one fun c => c != quote && c != '\\' && c != '\r' && c != '\n')

/- An escape in a literal; a question mark pairs with a line end as a carriage return does. -/
def escape : Regular :=
  anyOf [andThen (char '\\') (anyOf [
      .one fun c => c != 'x' && c != 'u' && !isOctalDigit c,
      times (.one isOctalDigit) 1 2,
      andThen (char 'x') (hexDigits 2 0),
      andThen (.one fun c => c == '\r' || c == '?') (.one fun c => c == '\n' || isLineSeparator c)]),
    unicodeEscape]

def regexBody : Regular :=
  let escaped : Regular := andThen (char '\\') (.one (· != '\n'))
  plus (anyOf [
    concat [char '[', .star (orElse escaped (.one fun c => c != ']' && c != '\\' && c != '\n')),
      char ']'],
    escaped,
    .one fun c => c != '/' && c != '\\' && c != '[' && c != '\n'])

def markupFragment (quote : Char) : Regular :=
  plus (orElse (.one fun c => c != quote && c != '&')
    (andThen (char '&') (.one fun c => c != '#' && !isLetter c)))

def htmlReference : Regular :=
  concat [char '&',
    anyOf [andThen (char '#') (orElse
        (andThen (.one fun c => c == 'x' || c == 'X') (hexDigits 1 5))
        (times (.one isDigit) 1 4)),
      times (.one isLetter) 1 29],
    char ';']

def regular : Grammar.Pattern → Regular
  | .hashBang => andThen (word "#!") (.star (.one (· != '\n')))
  | .htmlReference => htmlReference
  | .markupName => concat [.one isMarkupStart, .star (.one isMarkupPart), char '-',
      .star (.one fun c => isMarkupPart c || c == '-')]
  | .doubleMarkupFragment => markupFragment '"'
  | .singleMarkupFragment => markupFragment '\''
  | .doubleFragment => fragment '"'
  | .singleFragment => fragment '\''
  | .escape => escape
  | .comment => comment
  | .regexBody => regexBody
  | .regexEnd => char '/'
  | .regexFlags => plus (.one fun c => 'a' ≤ c && c ≤ 'z')
  | .number => number
  | .name => name
  | .privateName => andThen (char '#') name
  | .staticGet => concat [word "static", plus (.one isWhite), word "get", .star (.one isWhite),
      char '\n']

def isImmediate : Grammar.Pattern → Bool
  | .doubleMarkupFragment | .singleMarkupFragment | .doubleFragment | .singleFragment | .escape
  | .regexBody | .regexEnd | .regexFlags => true
  | _ => false

def isUrgent : Grammar.Pattern → Bool
  | .doubleMarkupFragment | .singleMarkupFragment | .doubleFragment | .singleFragment
  | .regexEnd => true
  | _ => false

end Lexeme

end ScriptConsole.Script
