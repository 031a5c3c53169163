import ScriptConsole.Engine.Library.Fundamental

/-!
Numbers, whole numbers of any size, and the functions of mathematics. -/
namespace ScriptConsole.Engine
open Action

namespace Arithmetic

def isNumber : Value → Bool
  | .number _ => true
  | _ => false

def isWholeNumber : Value → Bool
  | .bigint _ => true
  | _ => false

def numberOf (v : Value) : Action Float := do
  match ← Wrapped.value "number" isNumber v with
  | .number x => return x
  | _ => return Numeral.nan

def wholeOf (v : Value) : Action Int := do
  match ← Wrapped.value "bigint" isWholeNumber v with
  | .bigint n => return n
  | _ => return 0

def digitsOf (r : Recur) (v : Value) (low high : Int) : Action Nat := do
  let n ← r.toWhole v
  if n < low || high < n then fail .range "invalid number of digits" else return n.toNat

def radixOf (r : Recur) (v : Value) : Action Nat := do
  match v with
  | .undefined => return 10
  | _ =>
      let n ← r.toWhole v
      if n < 2 || 36 < n then fail .range "radix must be between 2 and 36" else return n.toNat

def parseWhole (s : String) (radix : Int) : Float :=
  let t := Numeral.trim s.toList
  let (minus, t) := match t with
    | '-' :: rest => (true, rest)
    | '+' :: rest => (false, rest)
    | _ => (false, t)
  let isMarked := match t with
    | '0' :: mark :: _ => (mark == 'x' || mark == 'X') && (radix == 0 || radix == 16)
    | _ => false
  let t := if isMarked then t.drop 2 else t
  let radix := if isMarked then 16 else if radix == 0 then 10 else radix
  if radix < 2 || 36 < radix then Numeral.nan
  else
    let digits := t.takeWhile fun c => (Numeral.digitIn? radix.toNat c).isSome
    if digits.isEmpty then Numeral.nan
    else
      let x := Float.ofNat (Numeral.natural radix.toNat digits)
      if minus then -x else x

def parseIntFunction : Content :=
  .function "parseInt" 2 fun r use => do
    let s ← r.toText (use.argument 0)
    return .number (parseWhole s (Numeral.signed 32 (← r.toWhole (use.argument 1))))

def parseFloatFunction : Content :=
  .function "parseFloat" 1 fun r use => do
    let t := Numeral.trim (← r.toText (use.argument 0)).toList
    return .number (((Numeral.signedDecimal? t).map (·.1)).getD Numeral.nan)

def test (name : String) (holds : Float → Bool) : Content :=
  .function name 1 fun _ use => return .boolean (match use.argument 0 with
    | .number x => holds x
    | _ => false)

def maxSafe : Float := 9007199254740991

def constant (name : String) (x : Float) : Content := .constant (.name name) (.number x)

def numbers : Shelf :=
  .constructor "Number" 1 true
    (fun r use => do
      let x ← match use.arguments with
        | [] => pure 0
        | v :: _ =>
            match ← r.toNumeric v with
            | .inl x => pure x
            | .inr n => pure (Float.ofInt n)
      Wrapped.orObject r use Place.numberProto (.number x))
    Place.numberProto none
    [parseIntFunction, parseFloatFunction,
      test "isNaN" Float.isNaN, test "isFinite" Float.isFinite,
      test "isInteger" Numeral.isWhole,
      test "isSafeInteger" fun x => Numeral.isWhole x && x.abs ≤ maxSafe,
      constant "MAX_VALUE" (Float.ofBits 0x7FEFFFFFFFFFFFFF),
      constant "MIN_VALUE" (Float.ofBits 1),
      constant "NaN" Numeral.nan,
      constant "NEGATIVE_INFINITY" (-Numeral.infinity),
      constant "POSITIVE_INFINITY" Numeral.infinity,
      constant "EPSILON" (Float.ofBits 0x3CB0000000000000),
      constant "MAX_SAFE_INTEGER" maxSafe,
      constant "MIN_SAFE_INTEGER" (-maxSafe)]
    [.function "toExponential" 1 fun r use => do
      let x ← numberOf use.this
      match use.argument 0 with
      | .undefined =>
          if !x.isFinite || x == 0 then
            return .text (if x == 0 then "0e+0" else Numeral.text x)
          return .text ((if x < 0 then "-" else "") ++
            String.ofList (Decimal.shortest x).scientific)
      | v =>
          let places ← digitsOf r v 0 100
          return .text (Numeral.withDigits (places + 1) true x),
    .function "toFixed" 1 fun r use => do
      let x ← numberOf use.this
      return .text (Numeral.fixed (← digitsOf r (use.argument 0) 0 100) x),
    .function "toPrecision" 1 fun r use => do
      let x ← numberOf use.this
      match use.argument 0 with
      | .undefined => return .text (Numeral.text x)
      | v => return .text (Numeral.withDigits (← digitsOf r v 1 100) false x),
    .function "toString" 1 fun r use => do
      let x ← numberOf use.this
      return .text (Numeral.inRadix (← radixOf r (use.argument 0)) x),
    .function "toLocaleString" 0 fun _ use => return .text (Numeral.text (← numberOf use.this)),
    .function "valueOf" 0 fun _ use => return .number (← numberOf use.this)]

def toWholeNumber (r : Recur) (v : Value) : Action Int := do
  match ← r.toPrimitive .number v with
  | .bigint n => return n
  | .boolean b => return if b then 1 else 0
  | .number x =>
      if Numeral.isWhole x then return Numeral.whole x
      else fail .range "cannot convert to BigInt: not an integer"
  | .text s =>
      match Numeral.readWhole? s with
      | some n => return n
      | none => fail .grammar "invalid bigint literal"
  | _ => mistyped "cannot convert to BigInt"

def wholeNumbers : Shelf :=
  .constructor "BigInt" 1 true
    (fun r use => do
      if isObject use.target then mistyped "not a constructor"
      return .bigint (← toWholeNumber r (use.argument 0)))
    Place.bigintProto none
    [.function "asUintN" 2 fun r use => do
      let bits ← r.toWhole (use.argument 0)
      return .bigint (Numeral.unsigned (min bits.toNat 100000)
        (← toWholeNumber r (use.argument 1))),
    .function "asIntN" 2 fun r use => do
      let bits ← r.toWhole (use.argument 0)
      return .bigint (Numeral.signed (min bits.toNat 100000)
        (← toWholeNumber r (use.argument 1)))]
    [.function "toString" 0 fun r use => do
      let n ← wholeOf use.this
      return .text (Numeral.intInRadix (← radixOf r (use.argument 0)) n),
    .function "toLocaleString" 0 fun _ use => return .text (toString (← wholeOf use.this)),
    .function "valueOf" 0 fun _ use => return .bigint (← wholeOf use.this),
    .constant (.symbol Symbol.toStringTag) (.text "BigInt")]

def unary (name : String) (f : Float → Float) : Content :=
  .function name 1 fun r use => return .number (f (← r.toNumber (use.argument 0)))

def binary (name : String) (f : Float → Float → Float) : Content :=
  .function name 2 fun r use => do
    let x ← r.toNumber (use.argument 0)
    return .number (f x (← r.toNumber (use.argument 1)))

def extreme (name : String) (start : Float) (better : Float → Float → Bool) : Content :=
  .function name 2 fun r use => do
    let numbers ← use.arguments.mapM r.toNumber
    return .number (numbers.foldl (fun best x =>
      if best.isNaN || x.isNaN then Numeral.nan else if better x best then x else best) start)

/- Whether `x` comes after `y`, the positive zero after the negative one. -/
def isAbove (x y : Float) : Bool :=
  y < x || (x == y && Decimal.isNegative y && !Decimal.isNegative x)

def sign (x : Float) : Float := if 0 < x then 1 else if x < 0 then -1 else x

def leadingZeros (x : Float) : Float :=
  let n := (Numeral.unsigned 32 (Numeral.whole x)).toNat
  if n = 0 then 32 else Float.ofNat (31 - n.log2)

def cubeRoot (x : Float) : Float :=
  let y := x.cbrt
  if x == 0 || !x.isFinite then y else y - (y * y * y - x) / (3 * y * y)

def nextRandom (n : Nat) : Nat := (n * 6364136223846793005 + 1442695040888963407) % 18446744073709551616

def mathematics : Shelf := .record "Math" [
  extreme "min" Numeral.infinity fun x y => isAbove y x,
  extreme "max" (-Numeral.infinity) isAbove,
  unary "abs" Float.abs, unary "floor" Float.floor, unary "ceil" Float.ceil,
  unary "round" Numeral.round, unary "sqrt" Float.sqrt, unary "acos" Float.acos,
  unary "asin" Float.asin, unary "atan" Float.atan, binary "atan2" Float.atan2,
  unary "cos" Float.cos, unary "exp" Float.exp, unary "log" Float.log,
  binary "pow" Numeral.power, unary "sin" Float.sin, unary "tan" Float.tan,
  unary "trunc" Numeral.truncate, unary "sign" sign, unary "cosh" Float.cosh,
  unary "sinh" Float.sinh, unary "tanh" Float.tanh, unary "acosh" Float.acosh,
  unary "asinh" Float.asinh, unary "atanh" Float.atanh,
  unary "expm1" fun x => if x.abs < 1e-5 then x + x * x / 2 else x.exp - 1,
  unary "log1p" fun x => if x.abs < 1e-5 then x - x * x / 2 else (1 + x).log,
  unary "log2" Float.log2, unary "log10" Float.log10, unary "cbrt" cubeRoot,
  .function "hypot" 2 fun r use => do
    let numbers ← use.arguments.mapM r.toNumber
    return .number (if numbers.any Float.isInf then Numeral.infinity
      else (numbers.foldl (fun sum x => sum + x * x) 0).sqrt),
  .function "random" 0 fun _ _ => do
    let m ← get
    let n := nextRandom (m.scopes.size * 1048576 + m.heap.size)
    return .number ((Float.ofNat (n / 2048)).scaleB (-53)),
  .missing "f16round",
  unary "fround" fun x => x.toFloat32.toFloat,
  .function "imul" 2 fun r use => do
    let m ← r.toWhole (use.argument 0)
    let n ← r.toWhole (use.argument 1)
    return .number (Float.ofInt (Numeral.signed 32 (m * n))),
  unary "clz32" leadingZeros,
  .datum (.symbol Symbol.toStringTag) (.text "Math"),
  constant "E" 2.718281828459045, constant "LN10" 2.302585092994046,
  constant "LN2" 0.6931471805599453, constant "LOG2E" 1.4426950408889634,
  constant "LOG10E" 0.4342944819032518, constant "PI" 3.141592653589793,
  constant "SQRT1_2" 0.7071067811865476, constant "SQRT2" 1.4142135623730951]

end Arithmetic

end ScriptConsole.Engine
