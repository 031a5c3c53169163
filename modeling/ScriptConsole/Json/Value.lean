import ScriptConsole.Text.Decimal

/-!
JSON values and their texts. Whole numbers of 64 bits are kept exactly, every other number is a
double. Object members are sorted by code point. -/
namespace ScriptConsole.Json

inductive Value
  | null
  | bool (b : Bool)
  | integer (n : Int)
  | double (x : Float)
  | string (t : Text)
  | array (items : List Value)
  | object (members : List (Text × Value))
  deriving Inhabited

def hexDigit (n : Nat) : Char := if n < 10 then Char.ofNat (48 + n) else Char.ofNat (87 + n)

def quoteChar (c : Char) : Text :=
  if c = '"' then ['\\', '"']
  else if c = '\\' then ['\\', '\\']
  else if c = '\n' then ['\\', 'n']
  else if c = '\r' then ['\\', 'r']
  else if c = '\t' then ['\\', 't']
  else if c = '\x08' then ['\\', 'b']
  else if c = '\x0c' then ['\\', 'f']
  else if c.val < 0x20 then
    ['\\', 'u', '0', '0', hexDigit (c.toNat / 16), hexDigit (c.toNat % 16)]
  else [c]

def quote (t : Text) : Text := '"' :: (t.flatMap quoteChar ++ ['"'])

/- The text of a double: positional from `10^-5` up to `10^16`, with `.0` after a whole number. -/
def doubleText (x : Float) : Text :=
  let sign : Text := if Decimal.isNegative x then ['-'] else []
  if x == 0 then sign ++ ['0', '.', '0']
  else
    let d := Decimal.shortest x
    sign ++ if -5 ≤ d.exponent && d.exponent < 16 then d.positional true else d.scientific

def integerText (n : Int) : Text :=
  if n < 0 then '-' :: Text.ofNat n.natAbs else Text.ofNat n.natAbs

def newline (depth : Nat) : Text := '\n' :: List.replicate (2 * depth) ' '

mutual

def pretty (depth : Nat) : Value → Text
  | .null => "null".toList
  | .bool b => (if b then "true" else "false").toList
  | .integer n => integerText n
  | .double x => doubleText x
  | .string t => quote t
  | .array [] => ['[', ']']
  | .array (first :: rest) =>
      '[' :: newline (depth + 1) ++ pretty (depth + 1) first ++ prettyItems depth rest ++
        newline depth ++ [']']
  | .object [] => ['{', '}']
  | .object ((key, first) :: rest) =>
      '{' :: newline (depth + 1) ++ quote key ++ [':', ' '] ++ pretty (depth + 1) first ++
        prettyMembers depth rest ++ newline depth ++ ['}']

def prettyItems (depth : Nat) : List Value → Text
  | [] => []
  | item :: rest =>
      ',' :: newline (depth + 1) ++ pretty (depth + 1) item ++ prettyItems depth rest

def prettyMembers (depth : Nat) : List (Text × Value) → Text
  | [] => []
  | (key, value) :: rest =>
      ',' :: newline (depth + 1) ++ quote key ++ [':', ' '] ++ pretty (depth + 1) value ++
        prettyMembers depth rest

end

/- Puts a member in its place by key; an older member of the same key gives way. -/
def insertMember (key : Text) (value : Value) : List (Text × Value) → List (Text × Value)
  | [] => [(key, value)]
  | (k, v) :: rest =>
      if key = k then (key, value) :: rest
      else if Text.lt key k then (key, value) :: (k, v) :: rest
      else (k, v) :: insertMember key value rest

end ScriptConsole.Json
