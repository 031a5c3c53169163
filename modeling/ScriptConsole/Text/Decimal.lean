import ScriptConsole.Text.Offset

/-!
The shortest decimal that reads back as a given double: among the numbers of fewest digits in the
interval that rounds to it, the nearest. The search is in natural numbers, on the double's mantissa
and binary exponent. -/
namespace ScriptConsole

/-- Digits `d₁d₂…` and an exponent `e` standing for `d₁.d₂… × 10ᵉ`. -/
structure Decimal where
  digits : List Nat
  exponent : Int
  deriving DecidableEq, Repr

namespace Decimal

/- `2^52`, the bit before the stored ones of a mantissa. -/
def hiddenBit : Nat := 4503599627370496

/- `2^63`, the bit that tells the sign of a double. -/
def signBit : Nat := 9223372036854775808

def isNegative (x : Float) : Bool := signBit ≤ x.toBits.toNat

def binary (x : Float) : Nat × Int :=
  let bits := x.toBits.toNat
  let fraction : Nat := bits % hiddenBit
  let exponent : Nat := bits / hiddenBit % 2048
  if exponent = 0 then (fraction, -1074) else (fraction + hiddenBit, Int.ofNat exponent - 1075)

structure Ratio where
  num : Nat
  den : Nat
  deriving DecidableEq, Repr

def Ratio.ofBinary (m : Nat) (q : Int) : Ratio :=
  if 0 ≤ q then ⟨m * Nat.pow 2 q.toNat, 1⟩ else ⟨m, Nat.pow 2 (-q).toNat⟩

def Ratio.ofDecimal (d : Nat) (k : Int) : Ratio :=
  if 0 ≤ k then ⟨d * Nat.pow 10 k.toNat, 1⟩ else ⟨d, Nat.pow 10 (-k).toNat⟩

def Ratio.lt (a b : Ratio) : Bool := a.num * b.den < b.num * a.den

def Ratio.le (a b : Ratio) : Bool := a.num * b.den ≤ b.num * a.den

def Ratio.distance (a b : Ratio) : Ratio :=
  let x := a.num * b.den
  let y := b.num * a.den
  ⟨max x y - min x y, a.den * b.den⟩

def Ratio.floorAt (r : Ratio) (k : Int) : Nat :=
  if 0 ≤ k then r.num / (r.den * Nat.pow 10 k.toNat)
  else r.num * Nat.pow 10 (-k).toNat / r.den

/- The greatest `e` with `10^e ≤ r`, searched down from `start` for at most `fuel` steps. -/
def floorLog (r : Ratio) (start : Int) : (fuel : Nat) → Int
  | 0 => start
  | fuel + 1 => if (Ratio.ofDecimal 1 start).le r then start else floorLog r (start - 1) fuel

def digitsOf (n : Nat) : List Nat := (Nat.toDigits 10 n).map fun c => c.toNat - '0'.toNat

def dropZeros (digits : List Nat) : List Nat := (digits.reverse.dropWhile (· == 0)).reverse

/- The first grid, of `count` digits or more, with a point in the interval of `m × 2^q`. -/
def search (value low high : Ratio) (closed : Bool) (top : Int) (count : Nat) :
    (fuel : Nat) → Nat × Int
  | 0 => (value.floorAt (top - 16), top - 16)
  | fuel + 1 =>
      let k := top - (count : Int) + 1
      let below := value.floorAt k
      let inside (d : Nat) : Bool :=
        let r := Ratio.ofDecimal d k
        if closed then low.le r && r.le high else low.lt r && r.lt high
      let near (d : Nat) : Ratio := (Ratio.ofDecimal d k).distance value
      match inside below, inside (below + 1) with
      | true, true =>
          if (near (below + 1)).lt (near below) then (below + 1, k)
          else if (near below).lt (near (below + 1)) then (below, k)
          else (if below % 2 = 0 then below else below + 1, k)
      | true, false => (below, k)
      | false, true => (below + 1, k)
      | false, false => search value low high closed top (count + 1) fuel

def shortest (x : Float) : Decimal :=
  let (m, q) := binary x
  let value := Ratio.ofBinary (4 * m) (q - 2)
  let high := Ratio.ofBinary (4 * m + 2) (q - 2)
  let low :=
    if m = hiddenBit && q ≠ -1074 then Ratio.ofBinary (4 * m - 1) (q - 2)
    else Ratio.ofBinary (4 * m - 2) (q - 2)
  let top := floorLog value 309 640
  let (d, k) := search value low high (m % 2 = 0) top 1 17
  let digits := digitsOf d
  ⟨dropZeros digits, k + digits.length - 1⟩

def text (digits : List Nat) : Text := digits.map fun d => Char.ofNat ('0'.toNat + d)

/- Positional notation: a point, zeros before or after the digits where they are needed; `whole`
says whether a whole number ends in `.0`. -/
def positional (d : Decimal) (whole : Bool) : Text :=
  if d.exponent < 0 then
    '0' :: '.' :: (List.replicate (d.exponent.natAbs - 1) '0' ++ text d.digits)
  else
    let n := d.exponent.toNat + 1
    if d.digits.length ≤ n then
      text d.digits ++ List.replicate (n - d.digits.length) '0' ++
        if whole then ['.', '0'] else []
    else text (d.digits.take n) ++ '.' :: text (d.digits.drop n)

def scientific (d : Decimal) : Text :=
  let mantissa := match d.digits with
    | [only] => text [only]
    | first :: rest => text [first] ++ '.' :: text rest
    | [] => []
  mantissa ++ 'e' :: (if d.exponent < 0 then '-' else '+') :: Text.ofNat d.exponent.natAbs

end Decimal

end ScriptConsole
