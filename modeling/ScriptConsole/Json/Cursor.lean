import ScriptConsole.Json.Parser

/-!
Reading JSON with a place for every fault: lines count from 1, columns in bytes. A fault of the
character just read stands after it, and so does one that is found by looking at the next
character. Values that nobody asked for are passed over: their brackets, words and digits have to be
right, but no number is too large and no surrogate unpaired. -/
namespace ScriptConsole.Json

inductive Cause
  | endInValue | endInList | endInObject | endInText
  | colon | listEnd | objectEnd | word | value
  | escape | number | range | control | key | surrogate | secondSurrogate
  | trailingComma | trailing
  | kind (found expected : Text)
  | content (found expected : Text)
  | choice (found : Text) (known : Text)
  | repeated (field : Text)
  deriving DecidableEq, Repr

namespace Cause

def message : Cause → Text
  | endInValue => "EOF while parsing a value".toList
  | endInList => "EOF while parsing a list".toList
  | endInObject => "EOF while parsing an object".toList
  | endInText => "EOF while parsing a string".toList
  | colon => "expected `:`".toList
  | listEnd => "expected `,` or `]`".toList
  | objectEnd => "expected `,` or `\x7d`".toList
  | word => "expected ident".toList
  | value => "expected value".toList
  | escape => "invalid escape".toList
  | number => "invalid number".toList
  | range => "number out of range".toList
  | control => "control character (\\u0000-\\u001F) found while parsing a string".toList
  | key => "key must be a string".toList
  | surrogate => "lone leading surrogate in hex escape".toList
  | secondSurrogate => "unexpected end of hex escape".toList
  | trailingComma => "trailing comma".toList
  | trailing => "trailing characters".toList
  | kind found expected =>
      "invalid type: ".toList ++ found ++ ", expected ".toList ++ expected
  | content found expected =>
      "invalid value: ".toList ++ found ++ ", expected ".toList ++ expected
  | choice found known =>
      "unknown variant `".toList ++ found ++ "`, expected ".toList ++ known
  | repeated field => "duplicate field `".toList ++ field ++ ['`']

end Cause

structure Fault where
  cause : Cause
  line : Nat
  column : Nat
  deriving DecidableEq, Repr

def Fault.message (f : Fault) : Text :=
  f.cause.message ++ " at line ".toList ++ Text.ofNat f.line ++ " column ".toList ++
    Text.ofNat f.column

structure Cursor where
  rest : Text
  line : Nat := 1
  column : Nat := 0
  deriving DecidableEq, Repr

abbrev Reading (α : Type) : Type := Cursor → Except Fault (α × Cursor)

namespace Cursor

def advance (line column n : Nat) : Text → Cursor
  | [] => ⟨[], line, column⟩
  | c :: rest =>
      if n = 0 then ⟨c :: rest, line, column⟩
      else if c = '\n' then advance (line + 1) 0 (n - 1) rest
      else if c.utf8Size ≤ n then advance line (column + c.utf8Size) (n - c.utf8Size) rest
      else ⟨c :: rest, line, column + n⟩

def skip (c : Cursor) (n : Nat) : Cursor := advance c.line c.column n c.rest

def next (c : Cursor) : Cursor := c.skip ((c.rest.head?.map Char.utf8Size).getD 0)

def faultHere {α : Type} (c : Cursor) (cause : Cause) : Except Fault α :=
  .error ⟨cause, c.line, c.column⟩

def faultAhead {α : Type} (c : Cursor) (cause : Cause) : Except Fault α :=
  (c.skip 1).faultHere cause

def peek (c : Cursor) : Option Char × Cursor :=
  let blanks := c.rest.takeWhile fun d => d = ' ' || d = '\n' || d = '\t' || d = '\r'
  let c := c.skip blanks.length
  (c.rest.head?, c)

def word (c : Cursor) : Text → Except Fault Cursor
  | [] => .ok c
  | d :: ds =>
      match c.rest with
      | [] => c.faultHere .endInValue
      | e :: _ => if d = e then c.next.word ds else c.next.faultHere .word

def hex4 (c : Cursor) : Except Fault (Nat × Cursor) :=
  if Text.size c.rest < 4 then (c.skip (Text.size c.rest)).faultHere .endInText
  else match Json.hex4? c.rest with
    | some (n, _) => .ok (n, c.skip 4)
    | none => (c.skip 4).faultHere .escape

def unicodeEscape (c : Cursor) : Except Fault (Char × Cursor) := do
  let (n, c) ← c.hex4
  if 0xDC00 ≤ n && n ≤ 0xDFFF then c.faultHere .surrogate
  else if 0xD800 ≤ n && n ≤ 0xDBFF then
    match c.rest with
    | [] => c.faultHere .endInText
    | '\\' :: _ =>
        match c.next.rest with
        | [] => c.next.faultHere .endInText
        | 'u' :: _ =>
            let (m, c) ← c.next.next.hex4
            if 0xDC00 ≤ m && m ≤ 0xDFFF then
              .ok (Char.ofNat ((n - 0xD800) * 1024 + (m - 0xDC00) + 0x10000), c)
            else c.faultHere .surrogate
        | _ => (c.next.skip 1).faultHere .secondSurrogate
    | _ => (c.skip 1).faultHere .secondSurrogate
  else .ok (Char.ofNat n, c)

/- The body of a text and its closing quote; the opening one has been read. -/
def textBody (c : Cursor) : (fuel : Nat) → Except Fault (Text × Cursor)
  | 0 => c.faultHere .endInText
  | fuel + 1 => do
      match c.rest with
      | [] => c.faultHere .endInText
      | '"' :: _ => .ok ([], c.next)
      | '\\' :: _ =>
          let c := c.next
          match c.rest with
          | [] => c.faultHere .endInText
          | 'u' :: _ =>
              let (d, c) ← c.next.unicodeEscape
              let (tail, c) ← c.textBody fuel
              .ok (d :: tail, c)
          | letter :: _ =>
              match Json.shortEscape? letter with
              | some d =>
                  let (tail, c) ← c.next.textBody fuel
                  .ok (d :: tail, c)
              | none => (c.skip 1).faultHere .escape
      | d :: _ =>
          if d.val < 0x20 then c.next.faultHere .control
          else
            let (tail, c) ← c.next.textBody fuel
            .ok (d :: tail, c)

def passText (c : Cursor) : (fuel : Nat) → Except Fault Cursor
  | 0 => c.faultHere .endInText
  | fuel + 1 => do
      match c.rest with
      | [] => c.faultHere .endInText
      | '"' :: _ => .ok c.next
      | '\\' :: _ =>
          let c := c.next
          match c.rest with
          | [] => c.faultHere .endInText
          | 'u' :: _ => (← c.next.hex4).2.passText fuel
          | letter :: _ =>
              if (Json.shortEscape? letter).isSome then c.next.passText fuel
              else (c.skip 1).faultHere .escape
      | d :: _ => if d.val < 0x20 then c.faultHere .control else c.next.passText fuel

def passDigits (c : Cursor) : Cursor := c.skip (c.rest.takeWhile Json.isDigit).length

/- Passes an exponent, its letter read; `cut` is the cause when the text ends in it. -/
def passExponent (cut : Cause) (c : Cursor) : Except Fault Cursor :=
  let c := match c.rest with
    | '+' :: _ | '-' :: _ => c.next
    | _ => c
  match c.rest with
  | [] => c.faultHere cut
  | d :: _ => if Json.isDigit d then .ok c.passDigits else (c.skip 1).faultHere .number

/- Passes a number, its sign read; `cut` is the cause when the text ends in it. -/
def passNumber (cut : Cause) (c : Cursor) : Except Fault Cursor := do
  let c ← match c.rest with
    | [] => c.faultHere cut
    | d :: rest =>
        if d = '0' && rest.head?.any Json.isDigit then c.next.faultAhead .number
        else if d = '0' then pure c.next
        else if Json.isDigit d then pure c.passDigits
        else (c.skip 1).faultHere .number
  match c.rest with
  | '.' :: rest =>
      match rest with
      | [] => c.next.faultAhead cut
      | d :: _ =>
          if Json.isDigit d then
            let c := c.next.passDigits
            match c.rest with
            | 'e' :: _ | 'E' :: _ => c.next.passExponent cut
            | _ => .ok c
          else c.next.faultAhead .number
  | 'e' :: _ | 'E' :: _ => c.next.passExponent cut
  | _ => .ok c

def numberFault {α : Type} (c : Cursor) : Except Fault α := do
  (← c.passNumber .endInValue).faultHere .range

def number (c : Cursor) (positive : Bool) : Except Fault (Value × Cursor) :=
  match Json.number? positive c.rest with
  | some (value, rest) => .ok (value, c.skip (Text.size c.rest - Text.size rest))
  | none => c.numberFault

/- Passes a value; `open_` are the brackets around it, the innermost first. -/
def passValue (c : Cursor) (open_ : List Char) : (fuel : Nat) → Except Fault Cursor
  | 0 => c.faultHere .endInValue
  | fuel + 1 => do
      let (d, c) := c.peek
      match d with
      | none => c.faultAhead .endInValue
      | some 'n' => after (← c.next.word "ull".toList) open_ true fuel
      | some 't' => after (← c.next.word "rue".toList) open_ true fuel
      | some 'f' => after (← c.next.word "alse".toList) open_ true fuel
      | some '"' => after (← c.next.passText (c.rest.length + 1)) open_ true fuel
      | some '-' => after (← c.next.passNumber .number) open_ true fuel
      | some '[' => after c.next ('[' :: open_) false fuel
      | some '{' => after c.next ('{' :: open_) false fuel
      | some d =>
          if Json.isDigit d then after (← c.passNumber .number) open_ true fuel
          else c.faultAhead .value
where
  after (c : Cursor) (open_ : List Char) (item : Bool) : (fuel : Nat) → Except Fault Cursor
    | 0 => c.faultHere .endInValue
    | fuel + 1 =>
        match open_ with
        | [] => .ok c
        | bracket :: outer =>
            let (d, c) := c.peek
            match d with
            | none => c.faultAhead (if bracket = '[' then .endInList else .endInObject)
            | some d =>
                if d = ',' && item then inside c.next open_ fuel
                else if d = (if bracket = '[' then ']' else '}') then after c.next outer true fuel
                else if item then
                  c.faultAhead (if bracket = '[' then .listEnd else .objectEnd)
                else inside c open_ fuel
  inside (c : Cursor) (open_ : List Char) : (fuel : Nat) → Except Fault Cursor
    | 0 => c.faultHere .endInValue
    | fuel + 1 => do
        if open_.head? = some '{' then
          let (d, c) := c.peek
          match d with
          | none => c.faultAhead .endInObject
          | some '"' =>
              let c ← c.next.passText (c.rest.length + 1)
              let (d, c) := c.peek
              match d with
              | none => c.faultAhead .endInObject
              | some ':' => passValue c.next open_ fuel
              | some _ => c.faultAhead .colon
          | some _ => c.faultAhead .key
        else passValue c open_ fuel

def described (t : Text) : Text :=
  "string ".toList ++ '"' :: (t.flatMap fun c =>
    if c = '"' then ['\\', '"'] else if c = '\\' then ['\\', '\\']
    else if c = '\n' then ['\\', 'n'] else if c = '\r' then ['\\', 'r']
    else if c = '\t' then ['\\', 't'] else if c = '\x00' then ['\\', '0'] else [c]) ++ ['"']

def describedNumber : Value → Text
  | .integer n => "integer `".toList ++ integerText n ++ ['`']
  | .double x =>
      let sign : Text := if Decimal.isNegative x then ['-'] else []
      "floating point `".toList ++ sign ++
        (if x == 0 then "0.0".toList else (Decimal.shortest x).positional true) ++ ['`']
  | _ => []

/- The fault of a value that is not of the expected kind; the value is read as far as its kind
asks for it. -/
def unexpected {α : Type} (c : Cursor) (expected : Text) : Except Fault α := do
  match c.rest with
  | 'n' :: _ => (← c.next.word "ull".toList).faultHere (.kind "null".toList expected)
  | 't' :: _ => (← c.next.word "rue".toList).faultHere (.kind "boolean `true`".toList expected)
  | 'f' :: _ => (← c.next.word "alse".toList).faultHere (.kind "boolean `false`".toList expected)
  | '-' :: _ =>
      let (value, c) ← c.next.number false
      c.faultHere (.kind (describedNumber value) expected)
  | '"' :: _ =>
      let (t, c) ← c.next.textBody (c.rest.length + 1)
      c.faultHere (.kind (described t) expected)
  | '[' :: _ => c.faultHere (.kind "sequence".toList expected)
  | '{' :: _ => c.faultHere (.kind "map".toList expected)
  | d :: _ =>
      if Json.isDigit d then
        let (value, c) ← c.number true
        c.faultHere (.kind (describedNumber value) expected)
      else c.faultAhead .value
  | [] => c.faultAhead .endInValue

def text (expected : Text) : Reading Text := fun c => do
  let (d, c) := c.peek
  match d with
  | some '"' => c.next.textBody (c.rest.length + 1)
  | _ => c.unexpected expected

def bool : Reading Bool := fun c => do
  let (d, c) := c.peek
  match d with
  | some 't' => .ok (true, ← c.next.word "rue".toList)
  | some 'f' => .ok (false, ← c.next.word "alse".toList)
  | _ => c.unexpected "a boolean".toList

def word64 : Reading Nat := fun c => do
  let expected := "usize".toList
  let (d, c) := c.peek
  let (value, c) ← match d with
    | some '-' => c.next.number false
    | some d => if Json.isDigit d then c.number true else c.unexpected expected
    | none => c.unexpected expected
  match value with
  | .integer n =>
      if 0 ≤ n then .ok (n.toNat, c)
      else c.faultHere (.content (describedNumber value) expected)
  | _ => c.faultHere (.kind (describedNumber value) expected)

def optional {α : Type} (read : Reading α) : Reading (Option α) := fun c => do
  let (d, c) := c.peek
  match d with
  | some 'n' => .ok (none, ← c.next.word "ull".toList)
  | _ =>
      let (value, c) ← read c
      .ok (some value, c)

def colon (c : Cursor) : Except Fault Cursor :=
  let (d, c) := c.peek
  match d with
  | some ':' => .ok c.next
  | some _ => c.faultAhead .colon
  | none => c.faultAhead .endInObject

/- The members of an object, its brace read: each known field is read into the record, once;
others are passed over. `first` tells whether nothing has been read yet. -/
def members {α : Type} (fields : List (Text × (α → Reading α))) (first : Bool) (seen : List Text)
    (record : α) (c : Cursor) : (fuel : Nat) → Except Fault (α × Cursor)
  | 0 => c.faultHere .endInObject
  | fuel + 1 => do
      let (d, c) := c.peek
      match d with
      | none => c.faultAhead .endInObject
      | some '}' => .ok (record, c.next)
      | some d =>
          let c ← if first then
              if d = '"' then pure c else c.faultAhead .key
            else if d = ',' then
              match c.next.peek with
              | (some '"', c) => pure c
              | (some '}', c) => c.faultAhead .trailingComma
              | (some _, c) => c.faultAhead .key
              | (none, c) => c.faultAhead .endInValue
            else c.faultAhead .objectEnd
          let (key, c) ← c.next.textBody (c.rest.length + 1)
          match fields.find? (·.1 = key) with
          | some (_, read) =>
              if seen.contains key then c.peek.2.faultHere (.repeated key)
              else
                let (record, c) ← read record (← c.colon)
                members fields false (key :: seen) record c fuel
          | none =>
              let c ← c.colon
              let c ← c.passValue [] (4 * c.rest.length + 4)
              members fields false seen record c fuel

/- The items of an array that stands for a record, its bracket read: the fields in their order, and
none beyond them. -/
def items {α : Type} (first : Bool) (record : α) (c : Cursor) :
    List (Text × (α → Reading α)) → Except Fault (α × Cursor)
  | [] =>
      match c.peek with
      | (some ']', c) => .ok (record, c.next)
      | (some ',', c) =>
          match c.next.peek with
          | (some ']', c) => c.faultAhead .trailingComma
          | (_, c) => c.faultAhead .trailing
      | (some _, c) => c.faultAhead .trailing
      | (none, c) => c.faultAhead .endInList
  | (_, read) :: fields => do
      match c.peek with
      | (none, c) => c.faultAhead .endInList
      | (some ']', c) => .ok (record, c.next)
      | (some d, c) =>
          let c ← if first then pure c
            else if d = ',' then
              match c.next.peek with
              | (some ']', c) => c.faultAhead .trailingComma
              | (some _, c) => pure c
              | (none, c) => c.faultAhead .endInValue
            else c.faultAhead .listEnd
          let (record, c) ← read record c
          items false record c fields

def record {α : Type} (name : Text) (initial : α) (fields : List (Text × (α → Reading α))) :
    Reading α := fun c =>
  match c.peek with
  | (some '{', c) => members fields true [] initial c.next (c.rest.length + 1)
  | (some '[', c) => items true initial c.next fields
  | (_, c) => c.unexpected ("struct ".toList ++ name)

/- One of several names, alone or as the key of a `null`. -/
def choice {α : Type} (known : Text) (choices : List (Text × α)) : Reading α := fun c => do
  let pick : Reading α := fun c => do
    let (name, c) ← text "variant identifier".toList c
    match choices.find? (·.1 = name) with
    | some (_, value) => .ok (value, c)
    | none => c.faultHere (.choice name known)
  match c.peek with
  | (some '"', c) => pick c
  | (some '{', c) =>
      let (value, c) ← pick c.next
      let c ← c.colon
      let c ← match c.peek with
        | (some 'n', c) => c.next.word "ull".toList
        | (_, c) => c.unexpected "unit".toList
      match c.peek with
      | (some '}', c) => .ok (value, c.next)
      | (some _, c) => c.faultHere .value
      | (none, c) => c.faultHere .endInObject
  | (some _, c) => c.faultAhead .value
  | (none, c) => c.faultAhead .endInValue

end Cursor

def readAll {α : Type} (read : Reading α) (t : Text) : Except Fault α := do
  let (value, c) ← read ⟨t, 1, 0⟩
  match c.peek with
  | (none, _) => .ok value
  | (some _, c) => c.faultAhead .trailing

end ScriptConsole.Json
