import ScriptConsole.Json.Value
import ScriptConsole.Text.Number

/-!
Reading JSON. Numbers are read digit by digit into 64 bits and scaled by a power of ten afterwards;
a number whose double would be infinite is refused, and so are lone surrogates, control characters
in strings and nesting of 128 levels. -/
namespace ScriptConsole.Json

def skipBlanks : Text → Text
  | c :: rest => if c = ' ' || c = '\n' || c = '\t' || c = '\r' then skipBlanks rest else c :: rest
  | [] => []

def hexValue? (c : Char) : Option Nat :=
  if '0' ≤ c && c ≤ '9' then some (c.toNat - 48)
  else if 'a' ≤ c && c ≤ 'f' then some (c.toNat - 87)
  else if 'A' ≤ c && c ≤ 'F' then some (c.toNat - 55)
  else none

def hex4? : Text → Option (Nat × Text)
  | a :: b :: c :: d :: rest => do
      some ((((← hexValue? a) * 16 + (← hexValue? b)) * 16 + (← hexValue? c)) * 16 +
        (← hexValue? d), rest)
  | _ => none

def shortEscape? : Char → Option Char
  | '"' => some '"'
  | '\\' => some '\\'
  | '/' => some '/'
  | 'b' => some '\x08'
  | 'f' => some '\x0c'
  | 'n' => some '\n'
  | 'r' => some '\r'
  | 't' => some '\t'
  | _ => none

/- The character of a `\u` escape whose start has been read, a pair of surrogates read together. -/
def unicodeEscape? (t : Text) : Option (Char × Text) := do
  let (n, rest) ← hex4? t
  if 0xDC00 ≤ n && n ≤ 0xDFFF then none
  else if 0xD800 ≤ n && n ≤ 0xDBFF then
    match rest with
    | '\\' :: 'u' :: rest =>
        let (low, rest) ← hex4? rest
        if 0xDC00 ≤ low && low ≤ 0xDFFF then
          some (Char.ofNat (0x10000 + (n - 0xD800) * 0x400 + (low - 0xDC00)), rest)
        else none
    | _ => none
  else some (Char.ofNat n, rest)

def stringBody? : (fuel : Nat) → Text → Option (Text × Text)
  | 0, _ => none
  | _, [] => none
  | fuel + 1, c :: rest =>
      if c = '"' then some ([], rest)
      else if c = '\\' then
        match rest with
        | 'u' :: rest => do
            let (c, rest) ← unicodeEscape? rest
            let (tail, rest) ← stringBody? fuel rest
            some (c :: tail, rest)
        | e :: rest => do
            let c ← shortEscape? e
            let (tail, rest) ← stringBody? fuel rest
            some (c :: tail, rest)
        | [] => none
      else if c.val < 0x20 then none
      else do
        let (tail, rest) ← stringBody? fuel rest
        some (c :: tail, rest)

def word64 : Nat := 18446744073709551615

def powerOfTen (n : Nat) : Float := Float.ofScientific 1 false n

/- `x × 10^exponent`, in steps that stay within the powers a double can hold; `none` if the result
is too large. -/
def scale? (x : Float) (exponent : Int) : (fuel : Nat) → Option Float
  | 0 => some x
  | fuel + 1 =>
      if exponent.natAbs ≤ 308 then
        if 0 ≤ exponent then
          let y := x * powerOfTen exponent.toNat
          if y.isInf then none else some y
        else some (x / powerOfTen exponent.natAbs)
      else if x == 0 then some x
      else if 0 ≤ exponent then none
      else scale? (x / powerOfTen 308) (exponent + 308) fuel

def double? (positive : Bool) (significand : Nat) (exponent : Int) : Option Float :=
  (scale? significand.toUInt64.toFloat exponent (exponent.natAbs / 308 + 2)).map fun x =>
    if positive then x else -x

def isDigit (c : Char) : Bool := '0' ≤ c && c ≤ '9'

def natOf (digits : Text) : Nat := digits.foldl (fun n c => n * 10 + (c.toNat - 48)) 0

/- Digits that fit into 64 bits after `value`, how many they are, and what follows. -/
def fitDigits (value : Nat) : Text → Nat × Nat × Text
  | c :: rest =>
      if isDigit c && value * 10 + (c.toNat - 48) ≤ word64 then
        let (value, count, rest) := fitDigits (value * 10 + (c.toNat - 48)) rest
        (value, count + 1, rest)
      else (value, 0, c :: rest)
  | [] => (value, 0, [])

/- The exponent part, its letter read; `significand × 10^exponent` stands before it. -/
def exponentPart? (positive : Bool) (significand : Nat) (exponent : Int) (t : Text) :
    Option (Float × Text) := do
  let (up, t) := match t with
    | '+' :: rest => (true, rest)
    | '-' :: rest => (false, rest)
    | _ => (true, t)
  let digits := t.takeWhile isDigit
  let rest := t.dropWhile isDigit
  if digits.isEmpty then none
  else
    let n := natOf digits
    if 2147483647 < n then
      if significand ≠ 0 && up then none else some (if positive then 0 else -0.0, rest)
    else some (← double? positive significand (if up then exponent + n else exponent - n), rest)

def fraction? (positive : Bool) (significand : Nat) (exponent : Int) (t : Text) :
    Option (Float × Text) := do
  let (significand, count, rest) := fitDigits significand t
  if count = 0 && !(t.head?.any isDigit) then none
  else
    let rest := rest.dropWhile isDigit
    match rest with
    | 'e' :: rest | 'E' :: rest => exponentPart? positive significand (exponent - count) rest
    | _ => some (← double? positive significand (exponent - count), rest)

def number? (positive : Bool) (t : Text) : Option (Value × Text) := do
  let (first, rest) ← match t with
    | '0' :: rest => if rest.head?.any isDigit then none else some (0, rest)
    | c :: rest => if '1' ≤ c && c ≤ '9' then some (c.toNat - 48, rest) else none
    | [] => none
  let (significand, _, rest) := if first = 0 then (0, 0, rest) else fitDigits first rest
  let extra := rest.takeWhile isDigit
  let exponent : Int := extra.length
  match rest.dropWhile isDigit with
  | '.' :: rest => (fraction? positive significand exponent rest).map fun (x, r) => (.double x, r)
  | 'e' :: rest | 'E' :: rest =>
      (exponentPart? positive significand exponent rest).map fun (x, r) => (.double x, r)
  | rest =>
      if !extra.isEmpty then some (.double (← double? positive significand exponent), rest)
      else if positive then some (.integer significand, rest)
      else if significand = 0 || Decimal.signBit < significand then
        some (.double (-significand.toUInt64.toFloat), rest)
      else some (.integer (-(significand : Int)), rest)

mutual

/- A value and what follows; `levels` is how many levels of nesting are still allowed. -/
def value? (levels : Nat) : (fuel : Nat) → Text → Option (Value × Text)
  | 0, _ => none
  | fuel + 1, t =>
      match skipBlanks t with
      | 'n' :: 'u' :: 'l' :: 'l' :: rest => some (.null, rest)
      | 't' :: 'r' :: 'u' :: 'e' :: rest => some (.bool true, rest)
      | 'f' :: 'a' :: 'l' :: 's' :: 'e' :: rest => some (.bool false, rest)
      | '"' :: rest => (stringBody? (rest.length + 1) rest).map fun (s, r) => (.string s, r)
      | '-' :: rest => number? false rest
      | '[' :: rest =>
          if levels ≤ 1 then none
          else match skipBlanks rest with
            | ']' :: rest => some (.array [], rest)
            | rest => do
                let (first, rest) ← value? (levels - 1) fuel rest
                let (items, rest) ← items? (levels - 1) fuel rest
                some (.array (first :: items), rest)
      | '{' :: rest =>
          if levels ≤ 1 then none
          else match skipBlanks rest with
            | '}' :: rest => some (.object [], rest)
            | rest => do
                let (members, rest) ← members? (levels - 1) fuel rest
                some (.object (members.foldl (fun o (k, v) => insertMember k v o) []), rest)
      | rest => number? true rest

def items? (levels : Nat) : (fuel : Nat) → Text → Option (List Value × Text)
  | 0, _ => none
  | fuel + 1, t =>
      match skipBlanks t with
      | ']' :: rest => some ([], rest)
      | ',' :: rest => do
          let (item, rest) ← value? levels fuel rest
          let (items, rest) ← items? levels fuel rest
          some (item :: items, rest)
      | _ => none

def members? (levels : Nat) : (fuel : Nat) → Text → Option (List (Text × Value) × Text)
  | 0, _ => none
  | fuel + 1, t =>
      match skipBlanks t with
      | '"' :: rest => do
          let (key, rest) ← stringBody? (rest.length + 1) rest
          match skipBlanks rest with
          | ':' :: rest =>
              let (value, rest) ← value? levels fuel rest
              match skipBlanks rest with
              | '}' :: rest => some ([(key, value)], rest)
              | ',' :: rest =>
                  let (members, rest) ← members? levels fuel rest
                  some ((key, value) :: members, rest)
              | _ => none
          | _ => none
      | _ => none

end

def parse? (t : Text) : Option Value := do
  let (value, rest) ← value? 128 (t.length + 1) t
  if (skipBlanks rest).isEmpty then some value else none

def parseStrings? (t : Text) : Option (List Text) := do
  match ← parse? t with
  | .array items => items.mapM fun item => match item with
      | .string s => some s
      | _ => none
  | _ => none

end ScriptConsole.Json
