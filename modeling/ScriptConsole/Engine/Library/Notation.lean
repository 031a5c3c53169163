import ScriptConsole.Engine.Library.Sequence
import ScriptConsole.Json.Value

/-!
Values in the notation of JSON, and back. What has no notation is left out of objects, and is null in
arrays. -/
namespace ScriptConsole.Engine
open Action

namespace Notation

/- How values are written: a function that may replace them, the keys that are kept, and what a
level of depth is indented with. -/
structure Style where
  replacer : Value
  kept : Option (List Key)
  gap : String

def quote (s : String) : String := String.ofList (Json.quote s.toList)

def enclosed (style : Style) (indent opening closing : String) (parts : List String) : String :=
  if parts.isEmpty then opening ++ closing
  else if style.gap.isEmpty then opening ++ ",".intercalate parts ++ closing
  else
    let inner := "\n" ++ indent ++ style.gap
    opening ++ inner ++ ("," ++ inner).intercalate parts ++ "\n" ++ indent ++ closing

def replaced (r : Recur) (style : Style) (holder : Value) (key : Key) (v : Value) :
    Action Value := do
  let v ← match v with
    | .object _ | .bigint _ =>
        (do
          let method ← r.getNamed v "toJSON"
          if ← isCallable method then r.call method v [key.toValue] else return v)
    | _ => pure v
  let v ← match style.replacer with
    | .undefined => pure v
    | f => r.call f holder [key.toValue, v]
  match v with
  | .object ref =>
      match (← object ref).kind with
      | .wrapped (.number _) => return .number (← r.toNumber v)
      | .wrapped (.text _) => return .text (← r.toText v)
      | .wrapped (.boolean b) => return .boolean b
      | .wrapped (.bigint n) => return .bigint n
      | _ => return v
  | _ => return v

/- The text of a value, none if it has none; `around` are the objects that it is in. -/
def write (r : Recur) (style : Style) : (fuel : Nat) → (around : List Nat) →
    (indent : String) → (holder : Value) → Key → Value → Action (Option String)
  | 0, _, _, _, _, _ => fail .range "Maximum call stack size exceeded"
  | fuel + 1, around, indent, holder, key, v => do
      match ← replaced r style holder key v with
      | .null => return some "null"
      | .boolean b => return some (if b then "true" else "false")
      | .text s => return some (quote s)
      | .number x => return some (if x.isFinite then Numeral.text x else "null")
      | .bigint _ => mistyped "Do not know how to serialize a BigInt"
      | .undefined | .symbol _ => return none
      | .object ref =>
          let o ← object ref
          if o.isCallable then return none
          if around.contains ref then mistyped "circular reference"
          let v := Value.object ref
          let part (key : Key) : Action (Option String) := do
            write r style fuel (ref :: around) (indent ++ style.gap) v key (← r.get v key)
          if o.isArray then
            let parts ← (List.range (← r.lengthOf v)).mapM fun n => do
              return (← part (Key.ofNat n)).getD "null"
            return some (enclosed style indent "[" "]" parts)
          else
            let keys ← match style.kept with
              | some keys => pure keys
              | none => Record.counted v
            let parts ← keys.filterMapM fun key => do
              return (← part key).map fun s =>
                quote key.describe ++ (if style.gap.isEmpty then ":" else ": ") ++ s
            return some (enclosed style indent "\x7b" "\x7d" parts)

def maxDepth : Nat := 1000

def stringify (r : Recur) (style : Style) (v : Value) : Action (Option String) := do
  let holder ← newRecord
  define holder (.name "") (.ordinary v)
  write r style maxDepth [] "" (.object holder) (.name "") v

def plainStyle : Style := ⟨.undefined, none, ""⟩

def skipBlanks (t : Text) : Text :=
  t.dropWhile fun c => c == ' ' || c == '\n' || c == '\r' || c == '\t'

def unexpected {α : Type} (t : Text) : Action α :=
  match t with
  | [] => fail .grammar "unexpected end of input"
  | c :: rest =>
      let word := if c.isAlphanum then (c :: rest).takeWhile Char.isAlphanum else [c]
      fail .grammar ("unexpected token: '" ++ String.ofList word ++ "'")

def readText : (fuel : Nat) → Text → Action (List Nat × Text)
  | 0, t => unexpected t
  | _ + 1, '"' :: rest => return ([], rest)
  | fuel + 1, '\\' :: c :: rest => do
      let simple : Option Nat :=
        [('"', 34), ('\\', 92), ('/', 47), ('b', 8), ('f', 12), ('n', 10), ('r', 13),
          ('t', 9)].lookup c
      match simple, c with
      | some u, _ =>
          let (units, rest) ← readText fuel rest
          return (u :: units, rest)
      | none, 'u' =>
          match Numeral.natural? 16 (rest.take 4) with
          | some u =>
              let (units, rest) ← readText fuel (rest.drop 4)
              return (u :: units, rest)
          | none => unexpected rest
      | none, _ => unexpected (c :: rest)
  | fuel + 1, c :: rest => do
      if c.toNat < 0x20 then fail .grammar "unexpected character in string"
      let (units, rest) ← readText fuel rest
      return (Units.ofChar c ++ units, rest)
  | _ + 1, [] => fail .grammar "unexpected end of string"

def number? (t : Text) : Option (Float × Text) :=
  let (minus, digits) := match t with
    | '-' :: rest => (true, rest)
    | _ => (false, t)
  let isPlain := match digits with
    | '0' :: c :: _ => !Numeral.isDigit c
    | c :: _ => Numeral.isDigit c
    | [] => false
  if isPlain then
    (Numeral.decimal? digits).map fun (x, rest) => (if minus then -x else x, rest)
  else none

mutual

def readValue : (fuel : Nat) → Text → Action (Value × Text)
  | 0, _ => fail .range "Maximum call stack size exceeded"
  | fuel + 1, t => do
      let t := skipBlanks t
      match t with
      | '"' :: rest =>
          let (units, rest) ← readText (rest.length + 1) rest
          return (.text (Units.toString units), rest)
      | '[' :: rest =>
          match skipBlanks rest with
          | ']' :: rest => return (← newArray [], rest)
          | rest =>
              let (items, rest) ← readItems fuel rest
              return (← newArray items, rest)
      | '{' :: rest =>
          let ref ← newRecord
          match skipBlanks rest with
          | '}' :: rest => return (.object ref, rest)
          | rest => return (.object ref, ← readMembers fuel ref rest)
      | 't' :: 'r' :: 'u' :: 'e' :: rest => return (.boolean true, rest)
      | 'f' :: 'a' :: 'l' :: 's' :: 'e' :: rest => return (.boolean false, rest)
      | 'n' :: 'u' :: 'l' :: 'l' :: rest => return (.null, rest)
      | _ =>
          match number? t with
          | some (x, rest) => return (.number x, rest)
          | none => unexpected t

def readItems : (fuel : Nat) → Text → Action (List Value × Text)
  | 0, _ => fail .range "Maximum call stack size exceeded"
  | fuel + 1, t => do
      let (v, rest) ← readValue fuel t
      match skipBlanks rest with
      | ',' :: rest =>
          let (items, rest) ← readItems fuel rest
          return (v :: items, rest)
      | ']' :: rest => return ([v], rest)
      | rest => unexpected rest

def readMembers : (fuel : Nat) → (ref : Nat) → Text → Action Text
  | 0, _, _ => fail .range "Maximum call stack size exceeded"
  | fuel + 1, ref, t => do
      match skipBlanks t with
      | '"' :: rest =>
          let (units, rest) ← readText (rest.length + 1) rest
          match skipBlanks rest with
          | ':' :: rest =>
              let (v, rest) ← readValue fuel rest
              define ref (.name (Units.toString units)) (.ordinary v)
              match skipBlanks rest with
              | ',' :: rest => readMembers fuel ref rest
              | '}' :: rest => return rest
              | rest => unexpected rest
          | rest => unexpected rest
      | rest => unexpected rest

end

def revived (r : Recur) (f : Value) : (fuel : Nat) → (holder : Value) → Key → Action Value
  | 0, _, _ => fail .range "Maximum call stack size exceeded"
  | fuel + 1, holder, key => do
      let v ← r.get holder key
      match v with
      | .object ref =>
          let keys ← if (← object ref).isArray then
              (fun n => (List.range n).map Key.ofNat) <$> r.lengthOf v
            else Record.counted v
          keys.forM fun key => do
            match ← revived r f fuel v key with
            | .undefined => update ref (·.withoutSlot key)
            | part => define ref key (.ordinary part)
      | _ => pure ()
      r.call f holder [key.toValue, v]

def parse : Native := fun r use => do
  let (v, rest) ← readValue 5000 (← r.toText (use.argument 0)).toList
  match skipBlanks rest with
  | [] => pure ()
  | rest => unexpected rest
  if ← isCallable (use.argument 1) then
    let holder ← newRecord
    define holder (.name "") (.ordinary v)
    revived r (use.argument 1) maxDepth (.object holder) (.name "")
  else return v

def styleOf (r : Recur) (replacer space : Value) : Action Style := do
  let gap ← match space with
    | .number _ =>
        (fun n : Int => String.ofList (List.replicate (min n.toNat 10) ' ')) <$> r.toWhole space
    | .text s => pure (Units.slice s 0 10)
    | _ => pure ""
  if ← isCallable replacer then return ⟨replacer, none, gap⟩
  else if ← Sequence.isArray replacer then
    let keys ← (← r.itemsOf replacer).mapM r.toText
    return ⟨.undefined, some (keys.eraseDups.map .name), gap⟩
  else return ⟨.undefined, none, gap⟩

def shelf : Shelf := .record "JSON" [
  .function "parse" 2 parse,
  .function "stringify" 3 fun r use => do
    let style ← styleOf r (use.argument 1) (use.argument 2)
    return match ← stringify r style (use.argument 0) with
      | some s => .text s
      | none => .undefined,
  .constant (.symbol Symbol.toStringTag) (.text "JSON")]

end Notation

end ScriptConsole.Engine
