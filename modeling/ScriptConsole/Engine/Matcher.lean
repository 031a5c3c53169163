import ScriptConsole.Engine.Numeral

/-!
Matchers: what a pattern between slashes says, and where it matches a text. The first way to match is
found by going back over choices; groups note the stretches that they matched. -/
namespace ScriptConsole.Engine

inductive Span
  | range (first last : Char)
  | digit (negated : Bool)
  | word (negated : Bool)
  | blank (negated : Bool)
  deriving Repr

inductive Matcher
  | empty
  | character (c : Char)
  | any
  | set (negated : Bool) (spans : List Span)
  | sequence (first second : Matcher)
  | choice (first second : Matcher)
  -- As often as allowed; the groups from `low` up to `high` start anew each time.
  | many (least : Nat) (most : Option Nat) (greedy : Bool) (low high : Nat) (m : Matcher)
  | group (index : Nat) (m : Matcher)
  | again (index : Nat)
  | start
  | stop
  | boundary (negated : Bool)
  | look (ahead negated : Bool) (m : Matcher)
  deriving Repr, Inhabited

namespace Matcher

structure Flags where
  ignoreCase : Bool
  multiline : Bool
  dotAll : Bool

abbrev Groups := List (Nat × Nat × Nat)

def isWord (c : Char) : Bool := c.isAlphanum || c == '_'

def isLineEnd (c : Char) : Bool :=
  c == '\n' || c == '\r' || c == '\u2028' || c == '\u2029'

namespace Span

def contains (c : Char) : Span → Bool
  | .range first last => first ≤ c && c ≤ last
  | .digit negated => Numeral.isDigit c != negated
  | .word negated => isWord c != negated
  | .blank negated => Numeral.isBlank c != negated

end Span

def alike (flags : Flags) (a b : Char) : Bool :=
  a == b || (flags.ignoreCase && a.toLower == b.toLower)

def inSet (flags : Flags) (spans : List Span) (c : Char) : Bool :=
  spans.any fun span => Span.contains c span ||
    (flags.ignoreCase && (Span.contains c.toLower span || Span.contains c.toUpper span))

def atBoundary (text : Array Char) (place : Nat) : Bool :=
  let before := 0 < place && (text[place - 1]?).any isWord
  before != (text[place]?).any isWord

def run (flags : Flags) (text : Array Char) : (fuel : Nat) → Matcher → Nat → Groups →
    (Nat → Groups → Option (Nat × Groups)) → Option (Nat × Groups)
  | 0, _, _, _, _ => none
  | fuel + 1, m, place, groups, next =>
      let one (fits : Char → Bool) : Option (Nat × Groups) :=
        match text[place]? with
        | some c => if fits c then next (place + 1) groups else none
        | none => none
      match m with
      | empty => next place groups
      | character c => one (alike flags c)
      | any => one fun c => flags.dotAll || !isLineEnd c
      | set negated spans => one fun c => inSet flags spans c != negated
      | sequence first second =>
          run flags text fuel first place groups fun place groups =>
            run flags text fuel second place groups next
      | choice first second =>
          match run flags text fuel first place groups next with
          | some found => some found
          | none => run flags text fuel second place groups next
      | group index m =>
          run flags text fuel m place groups fun stop groups =>
            next stop ((index, place, stop) :: groups.filter (·.1 != index))
      | again index =>
          match groups.find? (·.1 == index) with
          | none => next place groups
          | some (_, first, last) =>
              let wanted := (text.extract first last).toList
              let there := (text.extract place (place + wanted.length)).toList
              if wanted.length = there.length &&
                  (wanted.zip there).all fun (a, b) => alike flags a b then
                next (place + wanted.length) groups
              else none
      | start =>
          if place = 0 || (flags.multiline && (text[place - 1]?).any isLineEnd) then
            next place groups
          else none
      | stop =>
          if place = text.size || (flags.multiline && (text[place]?).any isLineEnd) then
            next place groups
          else none
      | boundary negated =>
          if atBoundary text place != negated then next place groups else none
      | look true negated m =>
          match run flags text fuel m place groups fun stop groups => some (stop, groups), negated with
          | some (_, groups), false => next place groups
          | none, true => next place groups
          | _, _ => none
      | look false negated m =>
          let found := (List.range (place + 1)).findSome? fun n =>
            run flags text fuel m (place - n) groups fun stop groups =>
              if stop = place then some (stop, groups) else none
          match found, negated with
          | some (_, groups), false => next place groups
          | none, true => next place groups
          | _, _ => none
      | many least most greedy low high m =>
          let fresh := groups.filter fun (index, _) => index < low || high ≤ index
          let more : Option (Nat × Groups) :=
            if most == some 0 then none
            else run flags text fuel m place fresh fun stop groups =>
              if stop = place && least = 0 then none
              else run flags text fuel
                (many (least - 1) (most.map (· - 1)) greedy low high m) stop groups next
          if 0 < least then more
          else if greedy then more <|> next place groups
          else next place groups <|> more

/-! Patterns are read from left to right; `count` is the number of groups opened so far. -/

structure Pattern where
  rest : Text
  count : Nat
  names : List (String × Nat)

def escapedSpan? : Char → Option Span
  | 'd' => some (.digit false)
  | 'D' => some (.digit true)
  | 'w' => some (.word false)
  | 'W' => some (.word true)
  | 's' => some (.blank false)
  | 'S' => some (.blank true)
  | _ => none

def escapedChar : Text → Char × Text
  | 'n' :: rest => ('\n', rest)
  | 't' :: rest => ('\t', rest)
  | 'r' :: rest => ('\r', rest)
  | 'f' :: rest => ('\x0c', rest)
  | 'v' :: rest => ('\x0b', rest)
  | '0' :: rest => ('\x00', rest)
  | 'x' :: a :: b :: rest => (Char.ofNat (Numeral.natural 16 [a, b]), rest)
  | 'u' :: '{' :: rest =>
      (Char.ofNat (Numeral.natural 16 (rest.takeWhile (· != '}'))),
        (rest.dropWhile (· != '}')).drop 1)
  | 'u' :: a :: b :: c :: d :: rest => (Char.ofNat (Numeral.natural 16 [a, b, c, d]), rest)
  | c :: rest => (c, rest)
  | [] => ('\\', [])

def setItem : Text → Option (Span × Text)
  | '\\' :: 'b' :: rest => some (.range '\x08' '\x08', rest)
  | '\\' :: c :: rest =>
      match escapedSpan? c with
      | some span => some (span, rest)
      | none =>
          let (c, rest) := escapedChar (c :: rest)
          some (.range c c, rest)
  | c :: rest => some (.range c c, rest)
  | [] => none

def setItems : (fuel : Nat) → Text → Option (List Span × Text)
  | 0, _ => none
  | _ + 1, ']' :: rest => some ([], rest)
  | fuel + 1, t => do
      let (item, rest) ← setItem t
      match item, rest with
      | .range first _, '-' :: after =>
          if after.head? == some ']' then
            let (items, rest) ← setItems fuel rest
            return (item :: items, rest)
          else
            let (last, after) ← setItem after
            let (items, rest) ← setItems fuel after
            match last with
            | .range _ last => return (.range first last :: items, rest)
            | span => return (item :: .range '-' '-' :: span :: items, rest)
      | _, _ =>
          let (items, rest) ← setItems fuel rest
          return (item :: items, rest)

def quantifier? : Text → Option (Nat × Option Nat × Text)
  | '*' :: rest => some (0, none, rest)
  | '+' :: rest => some (1, none, rest)
  | '?' :: rest => some (0, some 1, rest)
  | '{' :: rest =>
      let (low, rest) := Numeral.digits rest
      match Numeral.natural? 10 low, rest with
      | some low, '}' :: rest => some (low, some low, rest)
      | some low, ',' :: '}' :: rest => some (low, none, rest)
      | some low, ',' :: rest =>
          let (high, rest) := Numeral.digits rest
          match Numeral.natural? 10 high, rest with
          | some high, '}' :: rest => some (low, some high, rest)
          | _, _ => none
      | _, _ => none
  | _ => none

def quantified (before : Nat) (m : Matcher) (p : Pattern) : Matcher × Pattern :=
  match quantifier? p.rest with
  | none => (m, p)
  | some (least, most, '?' :: rest) =>
      (.many least most false before p.count m, { p with rest := rest })
  | some (least, most, rest) => (.many least most true before p.count m, { p with rest := rest })

mutual

def choices : (fuel : Nat) → Pattern → Option (Matcher × Pattern)
  | 0, _ => none
  | fuel + 1, p => do
      let (first, p) ← parts fuel p
      match p.rest with
      | '|' :: rest =>
          let (second, p) ← choices fuel { p with rest := rest }
          return (.choice first second, p)
      | _ => return (first, p)

def parts : (fuel : Nat) → Pattern → Option (Matcher × Pattern)
  | 0, _ => none
  | fuel + 1, p =>
      match p.rest with
      | [] | '|' :: _ | ')' :: _ => some (.empty, p)
      | _ => do
          let before := p.count + 1
          let (m, p) ← part fuel p
          let (m, p) := quantified before m { p with count := p.count }
          let (rest, p) ← parts fuel p
          return (.sequence m rest, p)

def part : (fuel : Nat) → Pattern → Option (Matcher × Pattern)
  | 0, _ => none
  | fuel + 1, p =>
      let closed (p : Pattern) (wrap : Matcher → Matcher) : Option (Matcher × Pattern) := do
        let (m, p) ← choices fuel p
        match p.rest with
        | ')' :: rest => return (wrap m, { p with rest := rest })
        | _ => none
      let numbered (p : Pattern) (names : List (String × Nat)) : Option (Matcher × Pattern) :=
        let index := p.count + 1
        closed { p with count := index, names := p.names ++ names } (.group index)
      match p.rest with
      | '.' :: rest => some (.any, { p with rest := rest })
      | '^' :: rest => some (.start, { p with rest := rest })
      | '$' :: rest => some (.stop, { p with rest := rest })
      | '[' :: '^' :: rest => do
          let (spans, rest) ← setItems (rest.length + 1) rest
          return (.set true spans, { p with rest := rest })
      | '[' :: rest => do
          let (spans, rest) ← setItems (rest.length + 1) rest
          return (.set false spans, { p with rest := rest })
      | '(' :: '?' :: ':' :: rest => closed { p with rest := rest } id
      | '(' :: '?' :: '=' :: rest => closed { p with rest := rest } (.look true false)
      | '(' :: '?' :: '!' :: rest => closed { p with rest := rest } (.look true true)
      | '(' :: '?' :: '<' :: '=' :: rest => closed { p with rest := rest } (.look false false)
      | '(' :: '?' :: '<' :: '!' :: rest => closed { p with rest := rest } (.look false true)
      | '(' :: '?' :: '<' :: rest =>
          let name := String.ofList (rest.takeWhile (· != '>'))
          numbered { p with rest := (rest.dropWhile (· != '>')).drop 1 } [(name, p.count + 1)]
      | '(' :: rest => numbered { p with rest := rest } []
      | '\\' :: 'b' :: rest => some (.boundary false, { p with rest := rest })
      | '\\' :: 'B' :: rest => some (.boundary true, { p with rest := rest })
      | '\\' :: 'k' :: '<' :: rest =>
          let name := String.ofList (rest.takeWhile (· != '>'))
          some (.again ((p.names.lookup name).getD 0),
            { p with rest := (rest.dropWhile (· != '>')).drop 1 })
      | '\\' :: c :: rest =>
          match escapedSpan? c with
          | some span => some (.set false [span], { p with rest := rest })
          | none =>
              if '1' ≤ c && c ≤ '9' then
                let (more, rest) := Numeral.digits rest
                some (.again (Numeral.natural 10 (c :: more)), { p with rest := rest })
              else
                let (c, rest) := escapedChar (c :: rest)
                some (.character c, { p with rest := rest })
      | '*' :: _ | '+' :: _ | '?' :: _ => none
      | c :: rest => some (.character c, { p with rest := rest })
      | [] => none

end

structure Compiled where
  matcher : Matcher
  count : Nat
  names : List (String × Nat)

def compile? (source : String) : Option Compiled := do
  let t := source.toList
  let (m, p) ← choices (2 * t.length + 2) ⟨t, 0, []⟩
  if p.rest.isEmpty then return ⟨m, p.count, p.names⟩ else none

/- The first match at a place or after it, with its start; the place itself only if `sticky`. -/
def find? (m : Matcher) (flags : Flags) (sticky : Bool) (text : Array Char) (place : Nat) :
    Option (Nat × Nat × Groups) :=
  let starts := if sticky then [place] else
    (List.range (text.size + 1 - place)).map (· + place)
  starts.findSome? fun first =>
    (run flags text (20 * text.size + 2000) m first [] fun last groups => some (last, groups)).map
      fun (last, groups) => (first, last, groups)

end Matcher

end ScriptConsole.Engine
