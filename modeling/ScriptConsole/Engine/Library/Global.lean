import ScriptConsole.Engine.Execute
import ScriptConsole.Engine.Library.Arithmetic
import ScriptConsole.Engine.Library.Calendar
import ScriptConsole.Engine.Library.Collections
import ScriptConsole.Engine.Library.Deferred
import ScriptConsole.Engine.Library.Notation
import ScriptConsole.Engine.Library.Texts
import ScriptConsole.Engine.OfOutline
import ScriptConsole.Script.Parse
import ScriptConsole.Text.Utf8

/-!
The global object: what belongs to no other part of the library, and all parts in order. -/
namespace ScriptConsole.Engine
open Action Script

namespace Global

def runText (r : Recur) (t : Text) : Action Value := do
  match Code.read Tongue.javaScript.get t with
  | .ok code => runScript r code
  | .error message => fail .grammar message

def functionOfTexts : Native := fun r use => do
  let texts ← use.arguments.mapM r.toText
  let parameters := ",".intercalate texts.dropLast
  runText r ("(function anonymous(" ++ parameters ++ "\n) \x7b\n" ++ texts.getLastD "" ++
    "\n\x7d)").toList

def isPlain (c : Char) : Bool := c.isAlphanum || "-_.!~*'()".contains c

def isReserved (c : Char) : Bool := ";/?:@&=+$,#".contains c

def percent (n : Nat) : Text :=
  ['%', (Numeral.digit (n / 16)).toUpper, (Numeral.digit (n % 16)).toUpper]

def encode (keeps : Char → Bool) : Native := fun r use => do
  let s ← r.toText (use.argument 0)
  return .text (String.ofList (s.toList.flatMap fun c =>
    if keeps c then [c]
    else (String.singleton c).toUTF8.toList.flatMap fun b => percent b.toNat))

/- The bytes that percent signs stand for; other characters keep theirs. -/
def bytesOf (keeps : Char → Bool) : Text → Option (List UInt8)
  | [] => some []
  | '%' :: a :: b :: rest => do
      let n ← Numeral.natural? 16 [a, b]
      let more ← bytesOf keeps rest
      if keeps (Char.ofNat n) then
        return (String.ofList ['%', a, b]).toUTF8.toList ++ more
      else return UInt8.ofNat n :: more
  | '%' :: _ => none
  | c :: rest => do return (String.singleton c).toUTF8.toList ++ (← bytesOf keeps rest)

def decode (keeps : Char → Bool) : Native := fun r use => do
  let s ← r.toText (use.argument 0)
  match bytesOf keeps s.toList with
  | some bytes =>
      match String.fromUTF8? ⟨bytes.toArray⟩ with
      | some s => return .text s
      | none => fail .uri "malformed UTF-8"
  | none => fail .uri "expecting hex digit"

def functions : List Content := [
  Arithmetic.parseIntFunction, Arithmetic.parseFloatFunction,
  .function "isNaN" 1 fun r use => return .boolean (← r.toNumber (use.argument 0)).isNaN,
  .function "isFinite" 1 fun r use => return .boolean (← r.toNumber (use.argument 0)).isFinite,
  .function "queueMicrotask" 1 fun _ use => do
    Promise.enqueue (.call (← Sequence.callback use 0))
    return .undefined,
  .function "decodeURI" 1 (decode isReserved),
  .function "decodeURIComponent" 1 (decode fun _ => false),
  .function "encodeURI" 1 (encode fun c => isPlain c || isReserved c),
  .function "encodeURIComponent" 1 (encode isPlain),
  .missing "escape", .missing "unescape",
  Arithmetic.constant "Infinity" Numeral.infinity,
  Arithmetic.constant "NaN" Numeral.nan,
  .constant (.name "undefined") .undefined,
  .function "eval" 1 fun r use => do
    match use.argument 0 with
    | .text s => runText r s.toList
    | v => return v]

def reflection : Shelf := .record "Reflect" [
  .function "apply" 3 fun r use => do
    r.call (use.argument 0) (use.argument 1) (← r.itemsOf (use.argument 2)),
  .function "construct" 2 fun r use => do
    let target := if use.arguments.length < 3 then use.argument 0 else use.argument 2
    r.construct (use.argument 0) (← r.itemsOf (use.argument 1)) target,
  .function "defineProperty" 3 fun r use => do
    let ref ← Record.needObject (use.argument 0)
    let key ← r.toKey (use.argument 1)
    Promise.attempt (do
      Record.defineAs r ref key (use.argument 2)
      return .boolean true) fun _ => return .boolean false,
  .function "deleteProperty" 2 fun r use => do
    let ref ← Record.needObject (use.argument 0)
    let key ← r.toKey (use.argument 1)
    let free := (((← object ref).slot? key).map Slot.configurable).getD true
    if free then update ref (·.withoutSlot key)
    return .boolean free,
  .function "get" 2 fun r use => do
    r.get (.object (← Record.needObject (use.argument 0))) (← r.toKey (use.argument 1)),
  .missing "getOwnPropertyDescriptor",
  .function "getPrototypeOf" 1 fun _ use => do
    let ref ← Record.needObject (use.argument 0)
    return ((← object ref).proto.map Value.object).getD .null,
  .function "has" 2 fun r use => do
    let ref ← Record.needObject (use.argument 0)
    return .boolean (← Recur.has (.object ref) (← r.toKey (use.argument 1))),
  .function "isExtensible" 1 fun _ use => do
    return .boolean (← object (← Record.needObject (use.argument 0))).extensible,
  .function "ownKeys" 1 fun _ use => do
    let o ← object (← Record.needObject (use.argument 0))
    newArray (o.keys.map Key.toValue),
  .missing "preventExtensions",
  .function "set" 3 fun r use => do
    r.set (.object (← Record.needObject (use.argument 0))) (← r.toKey (use.argument 1))
      (use.argument 2)
    return .boolean true,
  .missing "setPrototypeOf",
  .constant (.symbol Symbol.toStringTag) (.text "Reflect")]

def missing (names : List String) : Shelf := .part Place.globalObject (names.map .missing)

def callables : Shelf :=
  match Callable.shelf with
  | .constructor name arity isNew _ proto parent statics methods =>
      .constructor name arity isNew functionOfTexts proto parent statics methods
  | shelf => shelf

def shelves : List Shelf :=
  [Record.shelf, callables, missing ["Iterator"]] ++ ErrorKind.all.map Failure.shelf ++
  [Sequence.shelf, .part Place.globalObject functions, Arithmetic.numbers, Wrapped.booleans,
    Texts.shelf, Arithmetic.mathematics, reflection, Wrapped.symbols,
    .part Place.globalObject
      [.datum (.name "globalThis") (.object Place.globalObject)],
    Calendar.shelf, Matching.shelf, Notation.shelf, missing ["Proxy"], Keyed.maps, Keyed.sets,
    missing ["WeakMap", "WeakSet", "ArrayBuffer", "SharedArrayBuffer", "Uint8ClampedArray",
      "Int8Array", "Uint8Array", "Int16Array", "Uint16Array", "Int32Array", "Uint32Array",
      "BigInt64Array", "BigUint64Array", "Float16Array", "Float32Array", "Float64Array",
      "DataView", "Atomics"],
    Deferred.shelf, Arithmetic.wholeNumbers, missing ["WeakRef", "FinalizationRegistry"],
    .record "performance" [.function "now" 0 fun _ _ => return .number 0], Sequence.cursors]

def natives : Array Native := (Deferred.first ++ shelves.flatMap Shelf.natives).toArray

end Global

end ScriptConsole.Engine
