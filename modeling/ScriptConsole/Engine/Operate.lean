import ScriptConsole.Engine.Convert

/-!
What operators do: equalities, order, and arithmetic on doubles and on whole numbers of any size. -/
namespace ScriptConsole.Engine
open Action

def same : Value → Value → Bool
  | .undefined, .undefined | .null, .null => true
  | .boolean a, .boolean b => a == b
  | .number x, .number y => x == y
  | .bigint m, .bigint n => m == n
  | .text s, .text t => s == t
  | .symbol s, .symbol t => s == t
  | .object a, .object b => a == b
  | _, _ => false

def sameValue (a b : Value) : Bool :=
  match a, b with
  | .number x, .number y => x == y || (x.isNaN && y.isNaN)
  | _, _ => same a b

def identical (a b : Value) : Bool :=
  match a, b with
  | .number x, .number y => (x.isNaN && y.isNaN) || x.toBits == y.toBits
  | _, _ => same a b

def textLess (s t : String) : Bool := Units.ofString s < Units.ofString t

def wholeLess (n : Int) (x : Float) : Bool :=
  if x.isNaN then false
  else if x.isInf then 0 < x
  else n < Numeral.whole x || (n == Numeral.whole x && Numeral.truncate x < x)

def lessWhole (x : Float) (n : Int) : Bool :=
  if x.isNaN then false
  else if x.isInf then x < 0
  else Numeral.whole x < n || (n == Numeral.whole x && x < Numeral.truncate x)

/- The order of numbers; none when one is not a number. -/
def numericLess? : Float ⊕ Int → Float ⊕ Int → Option Bool
  | .inl x, .inl y => if x.isNaN || y.isNaN then none else some (x < y)
  | .inr m, .inr n => some (m < n)
  | .inr m, .inl y => if y.isNaN then none else some (wholeLess m y)
  | .inl x, .inr n => if x.isNaN then none else some (lessWhole x n)

namespace Recur

def less? (r : Recur) (a b : Value) : Action (Option Bool) := do
  let a ← r.toPrimitive .number a
  let b ← r.toPrimitive .number b
  match a, b with
  | .text s, .text t => return some (textLess s t)
  | .bigint n, .text t => return (Numeral.readWhole? t).map (n < ·)
  | .text s, .bigint n => return (Numeral.readWhole? s).map (· < n)
  | _, _ => return numericLess? (← r.toNumeric a) (← r.toNumeric b)

def loose : Value → Value → Bool
  | .undefined, .null | .null, .undefined => true
  | .number x, .text s => x == Numeral.read s
  | .text s, .number x => Numeral.read s == x
  | .bigint n, .text s => Numeral.readWhole? s == some n
  | .text s, .bigint n => Numeral.readWhole? s == some n
  | .bigint n, .number x | .number x, .bigint n =>
      Numeral.isWhole x && Numeral.whole x == n
  | a, b => same a b

def bitOf : Value → Value
  | .boolean b => .number (if b then 1 else 0)
  | v => v

def equal (r : Recur) (a b : Value) : Action Bool := do
  match a, b with
  | .object _, .object _ => return same a b
  | .object _, _ =>
      if isNullish b then return false
      else return loose (bitOf (← r.toPrimitive .any a)) (bitOf b)
  | _, .object _ =>
      if isNullish a then return false
      else return loose (bitOf a) (bitOf (← r.toPrimitive .any b))
  | _, _ =>
      if isNullish a || isNullish b then return loose a b
      else return loose (bitOf a) (bitOf b)

def onNumbers (operator : Operator) (x y : Float) : Float :=
  let a := Numeral.signed 32 (Numeral.whole x)
  let b := Numeral.signed 32 (Numeral.whole y)
  let shift := (Numeral.unsigned 5 b).toNat
  match operator with
  | .add => x + y
  | .subtract => x - y
  | .multiply => x * y
  | .divide => x / y
  | .remainder => Numeral.remainder x y
  | .power => Numeral.power x y
  | .shiftLeft => Float.ofInt (Numeral.signed 32 (a * (Nat.pow 2 shift : Nat)))
  | .shiftRight => Float.ofInt (a / (Nat.pow 2 shift : Nat))
  | .shiftRightZero => Float.ofInt (Numeral.unsigned 32 a / (Nat.pow 2 shift : Nat))
  | .bitAnd => Float.ofInt (Numeral.bitwise (· &&& ·) a b)
  | .bitOr => Float.ofInt (Numeral.bitwise (· ||| ·) a b)
  | .bitXor => Float.ofInt (Numeral.bitwise (· ^^^ ·) a b)
  | _ => Numeral.nan

def maxExponent : Int := 100000

def onWholes (operator : Operator) (m n : Int) : Action Int := do
  let shifted (n : Int) : Action Int :=
    if n < 0 then return m / (Nat.pow 2 n.natAbs : Nat)
    else if maxExponent < n then fail .range "BigInt is too large to allocate"
    else return m * (Nat.pow 2 n.toNat : Nat)
  match operator with
  | .add => return m + n
  | .subtract => return m - n
  | .multiply => return m * n
  | .divide => if n = 0 then fail .range "BigInt division by zero" else return m.tdiv n
  | .remainder => if n = 0 then fail .range "BigInt division by zero" else return m.tmod n
  | .power =>
      if n < 0 then fail .range "BigInt negative exponent"
      else if maxExponent < n then fail .range "BigInt is too large to allocate"
      else return Int.pow m n.toNat
  | .shiftLeft => shifted n
  | .shiftRight => shifted (-n)
  | .bitAnd => return Numeral.bitwise (· &&& ·) m n
  | .bitOr => return Numeral.bitwise (· ||| ·) m n
  | .bitXor => return Numeral.bitwise (· ^^^ ·) m n
  | _ => mistyped "BigInts do not support >>>"

def arithmetic (r : Recur) (operator : Operator) (a b : Value) : Action Value := do
  let x ← r.toNumeric a
  let y ← r.toNumeric b
  match x, y with
  | .inl x, .inl y => return .number (onNumbers operator x y)
  | .inr m, .inr n => return .bigint (← onWholes operator m n)
  | _, _ => mistyped "both operands must be BigInt"

def madeBy (r : Recur) (v constructor : Value) : Action Bool := do
  let ref ← match constructor with
    | .object ref => pure ref
    | _ => mistyped "invalid 'instanceof' right operand"
  let own ← r.get constructor (.symbol Symbol.hasInstance)
  if !isNullish own then return truthy (← r.call own constructor [v])
  if !(← object ref).isCallable then mistyped "invalid 'instanceof' right operand"
  let constructor ← match (← object ref).kind with
    | .native _ (target :: _) _ => if (← isCallable target) then pure target else pure constructor
    | _ => pure constructor
  match v, ← r.getNamed constructor "prototype" with
  | .object ref, .object proto =>
      return inherits (← getThe Machine).heap proto 10000 ref
  | .object _, _ => mistyped "operand 'prototype' property is not an object"
  | _, _ => return false

def operate (r : Recur) (operator : Operator) (a b : Value) : Action Value := do
  match operator with
  | .add =>
      let a ← r.toPrimitive .any a
      let b ← r.toPrimitive .any b
      match a, b with
      | .text s, _ => return .text (s ++ (← textOf b))
      | _, .text t => return .text ((← textOf a) ++ t)
      | _, _ => r.arithmetic .add a b
  | .less => return .boolean ((← r.less? a b).getD false)
  | .greater =>
      let a ← r.toPrimitive .number a
      return .boolean ((← r.less? b a).getD false)
  | .lessEqual =>
      let a ← r.toPrimitive .number a
      return .boolean (((← r.less? b a).map (!·)).getD false)
  | .greaterEqual => return .boolean (((← r.less? a b).map (!·)).getD false)
  | .equal => return .boolean (← r.equal a b)
  | .notEqual => return .boolean (!(← r.equal a b))
  | .same => return .boolean (Engine.same a b)
  | .notSame => return .boolean (!Engine.same a b)
  | .within =>
      if isObject b then return .boolean (← has b (← r.toKey a))
      else mistyped "invalid 'in' operand"
  | .instanceOf => return .boolean (← r.madeBy a b)
  | _ => r.arithmetic operator a b

def operateOne (r : Recur) (operator : UnaryOperator) (v : Value) : Action Value := do
  match operator with
  | .plus => return .number (← r.toNumber v)
  | .minus =>
      match ← r.toNumeric v with
      | .inl x => return .number (-x)
      | .inr n => return .bigint (-n)
  | .bitNot =>
      match ← r.toNumeric v with
      | .inl x => return .number (Float.ofInt (-1 - Numeral.signed 32 (Numeral.whole x)))
      | .inr n => return .bigint (-1 - n)
  | .not => return .boolean (!truthy v)
  | .typeOf => return .text (← typeName v)
  | .void => return .undefined

def stepped (r : Recur) (amount : Int) (v : Value) : Action (Value × Value) := do
  match ← r.toNumeric v with
  | .inl x => return (.number x, .number (x + Float.ofInt amount))
  | .inr n => return (.bigint n, .bigint (n + amount))

end Recur

end ScriptConsole.Engine
