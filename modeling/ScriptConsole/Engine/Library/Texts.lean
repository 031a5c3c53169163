import ScriptConsole.Engine.Library.Matching
import ScriptConsole.Text.Case

/-!
Texts. Places in them are counted in UTF-16 units. -/
namespace ScriptConsole.Engine
open Action

namespace Texts

def isText : Value → Bool
  | .text _ => true
  | _ => false

def this (r : Recur) (use : Use) : Action String := do
  if isNullish use.this then mistyped "null or undefined are forbidden"
  r.toText use.this

def plainArgument (r : Recur) (use : Use) : Action String := do
  if (← Matching.parts? (use.argument 0)).isSome then mistyped "regexp not supported"
  r.toText (use.argument 0)

def ofNat (n : Nat) : Value := .number (Float.ofNat n)

def within (length : Nat) (n : Int) : Nat := min n.toNat length

def placeOf (r : Recur) (length : Nat) (v : Value) (otherwise : Nat) : Action Nat := do
  match v with
  | .undefined => return otherwise
  | _ => return within length (← r.toWhole v)

def unitsFrom? (wanted : List Nat) : (units : List Nat) → (place : Nat) → Option Nat
  | [], place => if wanted.isEmpty then some place else none
  | u :: rest, place =>
      if wanted.isPrefixOf (u :: rest) then some place else unitsFrom? wanted rest (place + 1)

def indexOf? (s wanted : String) (start : Nat) : Option Nat :=
  unitsFrom? (Units.ofString wanted) ((Units.ofString s).drop start) start

def lastIndexOf? (s wanted : String) (last : Nat) : Option Nat :=
  let units := Units.ofString s
  let wanted := Units.ofString wanted
  (List.range (min last units.length + 1)).reverse.find? fun n =>
    wanted.isPrefixOf (units.drop n)

def placesOf (s wanted : String) : (fuel start : Nat) → List Nat
  | 0, _ => []
  | fuel + 1, start =>
      match indexOf? s wanted start with
      | some n => n :: placesOf s wanted fuel (n + max 1 (Units.length wanted))
      | none => []

def expanded (s : String) (m : Matching.Match) : List Char → List Char
  | '$' :: '$' :: rest => '$' :: expanded s m rest
  | '$' :: '&' :: rest => m.text.toList ++ expanded s m rest
  | '$' :: '\x60' :: rest => (Units.slice s 0 m.start).toList ++ expanded s m rest
  | '$' :: '\'' :: rest =>
      (Units.slice s m.stop (Units.length s)).toList ++ expanded s m rest
  | '$' :: c :: rest =>
      let n := c.toNat - '0'.toNat
      if Numeral.isDigit c && 0 < n && n < m.texts.length then
        ((m.texts.getD n none).getD "").toList ++ expanded s m rest
      else '$' :: expanded s m (c :: rest)
  | c :: rest => c :: expanded s m rest
  | [] => []

def replaced (r : Recur) (s : String) (found : List Matching.Match) (replacement : Value) :
    Action String := do
  let isFunction ← isCallable replacement
  let pattern ← if isFunction then pure "" else r.toText replacement
  let (text, last) ← found.foldlM (fun (text, last) m => do
    let put ← if isFunction then
        (do r.toText (← r.call replacement .undefined
          (m.texts.map Matching.optional ++ [ofNat m.start, .text s])))
      else pure (String.ofList (expanded s m pattern.toList))
    return (text ++ Units.slice s last m.start ++ put, m.stop)) ("", 0)
  return text ++ Units.slice s last (Units.length s)

def found (r : Recur) (s : String) (v : Value) (all : Bool) : Action (List Matching.Match) := do
  match ← Matching.parts? v with
  | some (_, source, flags) =>
      let list ← Matching.matchesFrom source flags s (if flags.contains 'g' then
        Units.length s + 2 else 1) 0
      if all && !flags.contains 'g' then mistyped "replaceAll must be called with a global regexp"
      return list
  | none =>
      let wanted ← r.toText v
      let places := placesOf s wanted (if all then Units.length s + 2 else 1) 0
      return places.map fun n => ⟨n, n + Units.length wanted, [some wanted], []⟩

def splitBy (s : String) (found : List Matching.Match) : List Value :=
  let size := Units.length s
  let used := found.filter fun m => m.start < m.stop || (0 < m.start && m.start < size)
  let (parts, last) := used.foldl (fun (parts, last) m =>
    (parts ++ [.text (Units.slice s last m.start)] ++ m.texts.tail.map Matching.optional,
      m.stop)) (([] : List Value), 0)
  parts ++ [.text (Units.slice s last size)]

def split (r : Recur) (use : Use) : Action Value := do
  let s ← this r use
  let limit ← match use.argument 1 with
    | .undefined => pure 4294967296
    | v => (fun n : Int => (Numeral.unsigned 32 n).toNat) <$> r.toWhole v
  let parts ← match use.argument 0, ← Matching.parts? (use.argument 0) with
    | .undefined, _ => pure [.text s]
    | _, some (_, source, flags) =>
        if s.isEmpty then
          (do
            let m ← Matching.matchAt source flags s true 0
            return if m.isSome then [] else [.text s])
        else splitBy s <$> Matching.matchesFrom source flags s (Units.length s + 2) 0
    | v, none =>
        (do
          let separator ← r.toText v
          if separator.isEmpty then
            return (Units.ofString s).map fun u => Value.text (Units.toString [u])
          else
            let places := placesOf s separator (Units.length s + 2) 0
            return splitBy s (places.map fun n =>
              ⟨n, n + Units.length separator, [some separator], []⟩))
  newArray (parts.take limit)

def filler (r : Recur) (use : Use) (s : String) : Action String := do
  let length := (← r.toWhole (use.argument 0)).toNat
  let unit ← match use.argument 1 with
    | .undefined => pure " "
    | v => r.toText v
  let wanted := length - Units.length s
  if wanted = 0 || unit.isEmpty then return ""
  if Obj.maxGap < wanted then fail .range "invalid string length"
  let copies := List.replicate (wanted / Units.length unit + 1) unit
  return Units.slice (String.join copies) 0 wanted

def charAt (r : Recur) (use : Use) : Action (Option Nat × String) := do
  let s ← this r use
  let n ← r.toWhole (use.argument 0)
  return (if n < 0 then none else (Units.ofString s)[n.toNat]?, s)

def trimStart (s : String) : String := String.ofList (s.toList.dropWhile Numeral.isBlank)

def trimEnd (s : String) : String :=
  String.ofList (s.toList.reverse.dropWhile Numeral.isBlank).reverse

def turned (name : String) (f : String → String) : Content :=
  .function name 0 fun r use => return .text (f (← this r use))

def inElement (name element : String) : Content :=
  .function name 0 fun r use => do
    return .text ("<" ++ element ++ ">" ++ (← this r use) ++ "</" ++ element ++ ">")

def statics : List Content := [
  .function "fromCharCode" 1 fun r use => do
    let units ← use.arguments.mapM fun v => do
      return (Numeral.unsigned 16 (← r.toWhole v)).toNat
    return .text (Units.toString units),
  .function "fromCodePoint" 1 fun r use => do
    let points ← use.arguments.mapM fun v => do
      let x ← r.toNumber v
      if !Numeral.isWhole x || x < 0 || 0x10FFFF < x then fail .range "invalid code point"
      return (Numeral.whole x).toNat
    return .text (String.ofList (points.map Char.ofNat)),
  .function "raw" 1 fun r use => do
    let texts ← r.itemsOf (← r.getNamed (use.argument 0) "raw")
    let texts ← texts.mapM r.toText
    let values ← (use.arguments.tail.take (texts.length - 1)).mapM r.toText
    let values := values ++ List.replicate (texts.length - values.length) ""
    return .text (String.join ((texts.zip values).map fun (a, b) => a ++ b))]

def methods : List Content := [
  .constant (.name "length") (.number 0),
  .function "at" 1 fun r use => do
    let s ← this r use
    let n ← r.toWhole (use.argument 0)
    let n := if n < 0 then Units.length s + n else n
    return if n < 0 then .undefined else Matching.optional (Units.at? s n.toNat),
  .function "charCodeAt" 1 fun r use => do
    return match ← charAt r use with
      | (some u, _) => ofNat u
      | (none, _) => .number Numeral.nan,
  .function "charAt" 1 fun r use => do
    return match ← charAt r use with
      | (some u, _) => .text (Units.toString [u])
      | (none, _) => .text "",
  .function "concat" 1 fun r use => do
    return .text ((← this r use) ++ String.join (← use.arguments.mapM r.toText)),
  .function "codePointAt" 1 fun r use => do
    let s ← this r use
    let n ← r.toWhole (use.argument 0)
    if n < 0 then return .undefined
    return match (Units.ofString s).drop n.toNat with
      | u :: v :: _ =>
          if Units.isHigh u && Units.isLow v then
            ofNat (0x10000 + (u - 0xD800) * 0x400 + (v - 0xDC00))
          else ofNat u
      | [u] => ofNat u
      | [] => .undefined,
  .function "isWellFormed" 0 fun _ _ => return .boolean true,
  turned "toWellFormed" id,
  .function "indexOf" 1 fun r use => do
    let s ← this r use
    let wanted ← r.toText (use.argument 0)
    let start ← placeOf r (Units.length s) (use.argument 1) 0
    return ((indexOf? s wanted start).map ofNat).getD (.number (-1)),
  .function "lastIndexOf" 1 fun r use => do
    let s ← this r use
    let wanted ← r.toText (use.argument 0)
    let last ← match use.argument 1 with
      | .undefined => pure (Units.length s)
      | v =>
          (do
            let x ← r.toNumber v
            if x.isNaN then return Units.length s
            else return within (Units.length s) (Numeral.whole x))
    return ((lastIndexOf? s wanted last).map ofNat).getD (.number (-1)),
  .function "includes" 1 fun r use => do
    let s ← this r use
    let wanted ← plainArgument r use
    let start ← placeOf r (Units.length s) (use.argument 1) 0
    return .boolean (indexOf? s wanted start).isSome,
  .function "endsWith" 1 fun r use => do
    let s ← this r use
    let wanted ← plainArgument r use
    let stop ← placeOf r (Units.length s) (use.argument 1) (Units.length s)
    return .boolean ((Units.ofString wanted).isSuffixOf ((Units.ofString s).take stop)),
  .function "startsWith" 1 fun r use => do
    let s ← this r use
    let wanted ← plainArgument r use
    let start ← placeOf r (Units.length s) (use.argument 1) 0
    return .boolean ((Units.ofString wanted).isPrefixOf ((Units.ofString s).drop start)),
  .function "match" 1 fun r use => do
    let s ← this r use
    let matcher ← match ← Matching.parts? (use.argument 0), use.argument 0 with
      | some _, v => pure v
      | none, .undefined => Matching.newMatcher "(?:)" ""
      | none, v => (do Matching.newMatcher (← r.toText v) "")
    let (_, source, flags) ← Matching.parts matcher
    if flags.contains 'g' then
      let list ← Matching.matchesFrom source flags s (Units.length s + 2) 0
      if list.isEmpty then return .null else newArray (list.map fun m => .text m.text)
    else
      match ← Matching.next r matcher s with
      | some m => Matching.shown s m
      | none => return .null,
  .function "matchAll" 1 fun r use => do
    let s ← this r use
    let list ← found r s (use.argument 0) true
    Sequence.cursor (← list.mapM (Matching.shown s)),
  .function "search" 1 fun r use => do
    let s ← this r use
    let (source, flags) ← match ← Matching.parts? (use.argument 0) with
      | some (_, source, flags) => pure (source, flags)
      | none => (fun s => (s, "")) <$> r.toText (use.argument 0)
    return match ← Matching.matchAt source flags s false 0 with
      | some m => ofNat m.start
      | none => .number (-1),
  .function "split" 2 split,
  .function "substring" 2 fun r use => do
    let s ← this r use
    let length := Units.length s
    let a ← placeOf r length (use.argument 0) 0
    let b ← placeOf r length (use.argument 1) length
    return .text (Units.slice s (min a b) (max a b)),
  .function "substr" 2 fun r use => do
    let s ← this r use
    let length := Units.length s
    let start := Sequence.place length (← r.toWhole (use.argument 0))
    let count ← placeOf r length (use.argument 1) length
    return .text (Units.slice s start (start + count)),
  .function "slice" 2 fun r use => do
    let s ← this r use
    let length := Units.length s
    let start ← Sequence.placeOf r length (use.argument 0) 0
    let stop ← Sequence.placeOf r length (use.argument 1) length
    return .text (Units.slice s start stop),
  .function "repeat" 1 fun r use => do
    let s ← this r use
    let n ← r.toWhole (use.argument 0)
    if n < 0 || 2147483648 ≤ n then fail .range "invalid repeat count"
    if Obj.maxGap < n.toNat * Units.length s then fail .range "invalid string length"
    return .text (String.join (List.replicate (if s.isEmpty then 0 else n.toNat) s)),
  .function "replace" 2 fun r use => do
    let s ← this r use
    return .text (← replaced r s (← found r s (use.argument 0) false) (use.argument 1)),
  .function "replaceAll" 2 fun r use => do
    let s ← this r use
    return .text (← replaced r s (← found r s (use.argument 0) true) (use.argument 1)),
  .function "padEnd" 1 fun r use => do
    let s ← this r use
    return .text (s ++ (← filler r use s)),
  .function "padStart" 1 fun r use => do
    let s ← this r use
    return .text ((← filler r use s) ++ s),
  turned "trim" fun s => trimEnd (trimStart s),
  turned "trimEnd" trimEnd, .alias (.name "trimRight") "trimEnd",
  turned "trimStart" trimStart, .alias (.name "trimLeft") "trimStart",
  .function "toString" 0 fun _ use => Wrapped.value "string" isText use.this,
  .function "valueOf" 0 fun _ use => Wrapped.value "string" isText use.this,
  .function "localeCompare" 1 fun r use => do
    let s ← this r use
    let t ← r.toText (use.argument 0)
    return .number (if textLess s t then -1 else if textLess t s then 1 else 0),
  turned "toLowerCase" Case.lower, turned "toUpperCase" Case.upper,
  turned "toLocaleLowerCase" Case.lower, turned "toLocaleUpperCase" Case.upper,
  .method (.symbol Symbol.iterator) 0 fun r use => do
    let s ← this r use
    Sequence.cursor (s.toList.map fun c => .text (String.singleton c)),
  .missing "anchor", inElement "big" "big", inElement "blink" "blink", inElement "bold" "b",
  inElement "fixed" "tt", .missing "fontcolor", .missing "fontsize", inElement "italics" "i",
  .missing "link", inElement "small" "small", inElement "strike" "strike",
  inElement "sub" "sub", inElement "sup" "sup", turned "normalize" id]

def shelf : Shelf :=
  .constructor "String" 1 true
    (fun r use => do
      let s ← match use.arguments with
        | [] => pure ""
        | .symbol s :: _ => if isObject use.target then textOf (.symbol s) else pure s.describe
        | v :: _ => r.toText v
      Wrapped.orObject r use Place.stringProto (.text s))
    Place.stringProto none statics methods
where
  textOf : Value → Action String
    | _ => mistyped "cannot convert symbol to string"

end Texts

end ScriptConsole.Engine
