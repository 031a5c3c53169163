import ScriptConsole.Script.Lexeme

/-!
Tokens that depend on what is around them: the semicolon that a line end stands for, the text of a
template, the question mark of a condition, comments after HTML fashion, and the text of markup.
They are asked for before the others, in places where the grammar allows one of them. The end of the
text and U+0000 are not told apart here. -/
namespace ScriptConsole.Script

structure Cursor where
  offset : Nat
  rest : Text
  deriving Repr, Inhabited

namespace Cursor

/- The character at the place; at the end U+0000. -/
def peek (here : Cursor) : Char := here.rest.headD '\x00'

def next (here : Cursor) : Cursor := ⟨here.offset + 1, here.rest.tail⟩

def skip (fits : Char → Bool) (here : Cursor) : Cursor :=
  ⟨here.offset + (here.rest.takeWhile fits).length, here.rest.dropWhile fits⟩

def word? (text : String) (here : Cursor) : Option Cursor :=
  let w := text.toList
  if w.isPrefixOf here.rest then some ⟨here.offset + w.length, here.rest.drop w.length⟩ else none

end Cursor

structure Found where
  which : Grammar.Contextual
  start : Nat
  stop : Nat
  deriving DecidableEq, Repr

namespace Surroundings

def endsStatement (c : Char) : Bool := c == '\n' || isLineSeparator c

def skipLine : Cursor → Cursor := .skip fun c => c != '\x00' && !endsStatement c

inductive Gap
  -- A slash that starts no comment.
  | slash
  | blanks
  | comment
  deriving DecidableEq, Repr

/- The rest of a block comment: the place after it, whether it was closed, and whether a line ended
in it. -/
def skipBlock (here : Cursor) : Cursor × Bool × Bool :=
  go here.offset false here.rest
where
  go (n : Nat) (sawLine : Bool) : Text → Cursor × Bool × Bool
    | [] => (⟨n, []⟩, false, sawLine)
    | '*' :: '/' :: rest => (⟨n + 2, rest⟩, true, sawLine)
    | c :: rest =>
        if c = '\x00' then (⟨n, c :: rest⟩, false, sawLine)
        else go (n + 1) (sawLine || endsStatement c) rest

/-- Skips blanks and comments. A block comment ends the search unless `all` is set or a slash
follows. The last part of the answer tells whether a comment was passed. -/
def skipGap (all : Bool) (here : Cursor) : Gap × Cursor × Bool :=
  go (here.rest.length + 1) false false here
where
  go : Nat → Bool → Bool → Cursor → Gap × Cursor × Bool
    | 0, _, sawComment, here => (.blanks, here, sawComment)
    | fuel + 1, sawLine, sawComment, here =>
        let here := here.skip isSpace
        if here.peek != '/' then (.blanks, here, sawComment)
        else
          let inside := here.next
          if inside.peek = '/' then go fuel sawLine true (skipLine inside.next)
          else if inside.peek = '*' then
            let (after, closed, line) := skipBlock inside.next
            let sawLine := sawLine || line
            if closed && after.peek != '/' && !all then
              (if sawLine then .blanks else .comment, after, true)
            else go fuel sawLine (sawComment || closed) after
          else (.slash, inside, sawComment)

structure Search where
  found : Bool
  place : Cursor
  sawComment : Bool

def continues (here : Cursor) : Bool :=
  let follows (c : Char) : Bool := here.next.peek = c
  if "\x60,:;*%><=[(?^|&/".toList.contains here.peek then true
  else
    match here.peek with
    | '.' => !isDigit here.next.peek
    | '+' => !follows '+'
    | '-' => !follows '-'
    | '!' => follows '='
    | 'i' =>
        match here.word? "in" with
        | none => false
        | some after =>
            if !isLetter after.peek then true
            else
              match after.word? "stanceof" with
              | none => false
              | some after => !isLetter after.peek
    | _ => false

/- Looks for the end of a statement: the end of the text, a closing brace, or a line end after
which nothing continues it. A comment ends it where `afterComment` allows. -/
def statementEnd (afterComment : Bool) (here : Cursor) : Search :=
  go (here.rest.length + 1) false here
where
  go : Nat → Bool → Cursor → Search
    | 0, sawComment, here => ⟨false, here, sawComment⟩
    | fuel + 1, sawComment, here =>
        if here.peek = '\x00' then ⟨true, here, sawComment⟩
        else if here.peek = '/' then
          match skipGap false here with
          | (.slash, here, saw) => ⟨false, here, sawComment || saw⟩
          | (gap, here, saw) =>
              if gap = .blanks && afterComment && here.peek != ',' && here.peek != '=' then
                ⟨true, here, sawComment || saw⟩
              else plain fuel (sawComment || saw) here
        else plain fuel sawComment here
  plain (fuel : Nat) (sawComment : Bool) (here : Cursor) : Search :=
    if here.peek = '\x7d' then ⟨true, here, sawComment⟩
    else if endsStatement here.peek then
      match skipGap true here.next with
      | (.slash, here, saw) => ⟨false, here, sawComment || saw⟩
      | (_, here, saw) => ⟨!continues here, here, sawComment || saw⟩
    else if isSpace here.peek then go fuel sawComment here.next
    else ⟨false, here, sawComment⟩

/- The question mark of a condition: neither doubled nor before a point, unless a digit follows
that. -/
def ternaryMark? (here : Cursor) : Option Found :=
  let start := here.skip isSpace
  if start.peek != '?' then none
  else
    let after := start.next
    let found : Found := ⟨.ternaryMark, start.offset, after.offset⟩
    if after.peek = '?' then none
    else if after.peek = '.' then if isDigit after.next.peek then some found else none
    else some found

def templateText? (here : Cursor) : Option Found :=
  match length? 0 here.rest with
  | some n => if n = 0 then none else some ⟨.templateText, here.offset, here.offset + n⟩
  | none => none
where
  length? (n : Nat) : Text → Option Nat
    | [] => none
    | c :: rest =>
        if c = '\x60' || c = '\\' then some n
        else if c = '\x00' then none
        else if c = '$' && rest.head? = some '\x7b' then some n
        else length? (n + 1) rest

def markupText? (here : Cursor) : Option Found :=
  let text := here.rest.takeWhile fun c =>
    !(c == '\x00' || c == '<' || c == '>' || c == '\x7b' || c == '\x7d' || c == '&')
  if shows false text then some ⟨.markupText, here.offset, here.offset + text.length⟩ else none
where
  shows (afterLine : Bool) : Text → Bool
    | [] => false
    | c :: rest =>
        if c = '\n' then shows true rest
        else if afterLine && isSpace c then shows true rest
        else true

def htmlComment? (here : Cursor) : Option Found :=
  let start := here.skip fun c => isSpace c || isLineSeparator c
  match start.word? "<!--" <|> start.word? "-->" with
  | some after => some ⟨.htmlComment, start.offset, (skipLine after).offset⟩
  | none => none

structure Expected where
  contextual : Grammar.Contextual → Bool
  -- The operator of two bars, which stands for being after an expression.
  alternative : Bool
  escape : Bool
  regexBody : Bool

def find? (expected : Expected) (here : Cursor) : Option Found :=
  if expected.contextual .templateText then
    if expected.contextual .semicolon then none else templateText? here
  else
    match if expected.contextual .markupText then markupText? here else none with
    | some found => some found
    | none =>
        if expected.contextual .semicolon then
          let search := statementEnd (!expected.alternative) here
          if search.found then some ⟨.semicolon, here.offset, here.offset⟩
          else if !search.sawComment && expected.contextual .ternaryMark &&
              search.place.peek = '?' then ternaryMark? search.place
          else none
        else if expected.contextual .ternaryMark then ternaryMark? here
        else if expected.contextual .htmlComment && !expected.alternative && !expected.escape &&
            !expected.regexBody then htmlComment? here
        else none

end Surroundings

end ScriptConsole.Script
