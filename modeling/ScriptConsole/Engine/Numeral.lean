import ScriptConsole.Text.Class
import ScriptConsole.Text.Decimal
import ScriptConsole.Text.Number

/-!
Numbers as scripts write, read and combine them: doubles, and whole numbers cut to a count of bits. -/
namespace ScriptConsole.Engine.Numeral

def nan : Float := 0.0 / 0.0
def infinity : Float := 1.0 / 0.0

/- The whole part of a double; what is not finite has none. -/
def whole? (x : Float) : Option Int :=
  if x.isFinite then
    let (m, q) := Decimal.binary x
    let n := if 0 ≤ q then m * Nat.pow 2 q.toNat else m / Nat.pow 2 (-q).toNat
    some (if Decimal.isNegative x then -(n : Int) else n)
  else none

def whole (x : Float) : Int := (whole? x).getD 0

def isWhole (x : Float) : Bool := x.isFinite && x == x.floor

def ofInt (n : Int) : Float := Float.ofInt n

/- The number of `bits` bits, with a sign, that `n` agrees with in its low bits. -/
def signed (bits : Nat) (n : Int) : Int := Int.bmod n (Nat.pow 2 bits)

/- The number of `bits` bits, without a sign, that `n` agrees with in its low bits. -/
def unsigned (bits : Nat) (n : Int) : Int := n % (Nat.pow 2 bits : Nat)

def commonBits (a b : Int) : Nat := Nat.log2 (a.natAbs + b.natAbs + 1) + 2

def bitwise (f : Nat → Nat → Nat) (a b : Int) : Int :=
  let bits := commonBits a b
  signed bits (f (unsigned bits a).toNat (unsigned bits b).toNat)

/- What is left of `x` after whole multiples of `y`, with the sign of `x`. -/
def remainder (x y : Float) : Float :=
  if !x.isFinite || y.isNaN || y == 0 then nan
  else if !y.isFinite then x
  else
    let (m, p) := Decimal.binary x
    let (n, q) := Decimal.binary y
    let low := min p q
    let left := (m * Nat.pow 2 (p - low).toNat) % (n * Nat.pow 2 (q - low).toNat)
    let size := (Float.ofNat left).scaleB low
    if Decimal.isNegative x then -size else size

def power (x y : Float) : Float :=
  if y.isNaN then nan
  else if y == 0 then 1
  else if x.abs == 1 && !y.isFinite then nan
  else Float.pow x y

def round (x : Float) : Float :=
  if !isWhole x && x.isFinite then
    let low := x.floor
    let near := if x - low < 0.5 then low else low + 1
    if near == 0 && Decimal.isNegative x then -0.0 else near
  else x

def truncate (x : Float) : Float := if Decimal.isNegative x then x.ceil else x.floor

/- The text of a number: positional from `10^-6` up to `10^21`, else scientific. -/
def text (x : Float) : String :=
  if x.isNaN then "NaN"
  else if x == 0 then "0"
  else
    let size :=
      if x.isFinite then
        let d := Decimal.shortest x
        String.ofList (if -7 < d.exponent && d.exponent < 21 then d.positional false
          else d.scientific)
      else "Infinity"
    if Decimal.isNegative x then "-" ++ size else size

def digit (n : Nat) : Char := if n < 10 then Char.ofNat (48 + n) else Char.ofNat (87 + n)

def digitsInto (radix : Nat) : (fuel n : Nat) → List Char → List Char
  | 0, _, found => found
  | fuel + 1, n, found =>
      let found := digit (n % radix) :: found
      if n < radix then found else digitsInto radix fuel (n / radix) found

def natInRadix (radix n : Nat) : String := String.ofList (digitsInto radix (n + 1).log2.succ n [])

def intInRadix (radix : Nat) (n : Int) : String :=
  (if n < 0 then "-" else "") ++ natInRadix radix n.natAbs

/- Digits of a fraction `num / den < 1`, as long as they tell it from its neighbours `gap` away. -/
def fractionDigits (radix den : Nat) : (fuel num gap : Nat) → List Char
  | 0, _, _ => []
  | fuel + 1, num, gap =>
      let num := num * radix
      let gap := gap * radix
      let d := num / den
      let left := num % den
      if left < gap || den < left + gap then
        let up := den < 2 * left || (2 * left = den && d % 2 = 1)
        [digit (if up then d + 1 else d)]
      else digit d :: fractionDigits radix den fuel left gap

def inRadix (radix : Nat) (x : Float) : String :=
  if radix = 10 || !x.isFinite then text x
  else
    let (m, q) := Decimal.binary x
    let sign := if Decimal.isNegative x && x != 0 then "-" else ""
    if 0 ≤ q then sign ++ natInRadix radix (m * Nat.pow 2 q.toNat)
    else
      let den := Nat.pow 2 (-q).toNat
      let fraction := m % den
      sign ++ natInRadix radix (m / den) ++
        if fraction = 0 then ""
        else "." ++ String.ofList (fractionDigits radix (2 * den) 1100 (2 * fraction) 1)

def nearest (num den : Nat) : Nat := (2 * num + den) / (2 * den)

def fixed (places : Nat) (x : Float) : String :=
  if !x.isFinite || 1e21 ≤ x.abs then text x
  else
    let r := Decimal.Ratio.ofBinary (Decimal.binary x).1 (Decimal.binary x).2
    let n := nearest (r.num * Nat.pow 10 places) r.den
    let digits := (Nat.repr n).toList
    let digits := List.replicate (places + 1 - digits.length) '0' ++ digits
    let (front, back) := digits.splitAt (digits.length - places)
    (if Decimal.isNegative x && n != 0 then "-" else "") ++ String.ofList front ++
      (if back.isEmpty then "" else "." ++ String.ofList back)

def rounded (count : Nat) (x : Float) : Decimal :=
  let r := Decimal.Ratio.ofBinary (Decimal.binary x).1 (Decimal.binary x).2
  let top := Decimal.floorLog r 309 640
  let k := top - (count : Int) + 1
  let n := if 0 ≤ k then nearest r.num (r.den * Nat.pow 10 k.toNat)
    else nearest (r.num * Nat.pow 10 (-k).toNat) r.den
  if n = Nat.pow 10 count then ⟨Decimal.digitsOf (n / 10), top + 1⟩ else ⟨Decimal.digitsOf n, top⟩

def withDigits (count : Nat) (scientific : Bool) (x : Float) : String :=
  if !x.isFinite then text x
  else
    let d := if x == 0 then ⟨List.replicate count 0, 0⟩ else rounded count x
    (if Decimal.isNegative x && x != 0 then "-" else "") ++ String.ofList
      (if scientific || d.exponent < -6 || (count : Int) ≤ d.exponent then d.scientific
      else d.positional false)

def digitIn? (radix : Nat) (c : Char) : Option Nat :=
  let value? :=
    if '0' ≤ c && c ≤ '9' then some (c.toNat - 48)
    else if 'a' ≤ c && c ≤ 'z' then some (c.toNat - 87)
    else if 'A' ≤ c && c ≤ 'Z' then some (c.toNat - 55)
    else none
  value?.filter (· < radix)

def natural (radix : Nat) (digits : List Char) : Nat :=
  digits.foldl (fun n c => n * radix + (digitIn? radix c).getD 0) 0

def natural? (radix : Nat) (digits : List Char) : Option Nat :=
  if !digits.isEmpty && digits.all fun c => (digitIn? radix c).isSome then
    some (natural radix digits)
  else none

def isDigit (c : Char) : Bool := '0' ≤ c && c ≤ '9'

def digits (t : Text) : Text × Text := (t.takeWhile isDigit, t.dropWhile isDigit)

def decimal? (t : Text) : Option (Float × Text) :=
  let (front, rest) := digits t
  let (back, rest) := match rest with
    | '.' :: after => if front.isEmpty && (digits after).1.isEmpty then ([], rest) else digits after
    | _ => ([], rest)
  if front.isEmpty && back.isEmpty then none
  else
    let (exponent, rest) : Int × Text := match rest with
      | e :: after =>
          if e == 'e' || e == 'E' then
            let (minus, after) := match after with
              | '+' :: after => (false, after)
              | '-' :: after => (true, after)
              | _ => (false, after)
            let (power, after) := digits after
            if power.isEmpty then (0, rest)
            else
              let n := min (natural 10 power) 100000
              (if minus then -(n : Int) else n, after)
          else (0, rest)
      | [] => (0, rest)
    let n := natural 10 (front ++ back)
    let e := exponent - back.length
    some (if n = 0 then 0
      else if 400 < e + front.length + back.length then infinity
      else if e + front.length + back.length < -400 then 0
      else if 0 ≤ e then Float.ofScientific n false e.toNat
      else Float.ofScientific n true e.natAbs, rest)

def marked? : Text → Option Nat
  | '0' :: mark :: digits =>
      if mark == 'x' || mark == 'X' then natural? 16 digits
      else if mark == 'o' || mark == 'O' then natural? 8 digits
      else if mark == 'b' || mark == 'B' then natural? 2 digits
      else none
  | _ => none

def isBlank (c : Char) : Bool := Text.isBlank c || c == '\ufeff'

def trim (t : Text) : Text := ((t.dropWhile isBlank).reverse.dropWhile isBlank).reverse

def signedDecimal? (t : Text) : Option (Float × Text) :=
  let (minus, t) := match t with
    | '-' :: rest => (true, rest)
    | '+' :: rest => (false, rest)
    | _ => (false, t)
  let found := match Text.dropLead? t "Infinity".toList with
    | some rest => some (infinity, rest)
    | none => decimal? t
  found.map fun (x, rest) => (if minus then -x else x, rest)

def read (s : String) : Float :=
  let t := trim s.toList
  if t.isEmpty then 0
  else match marked? t with
    | some n => Float.ofNat n
    | none =>
        match signedDecimal? t with
        | some (x, []) => x
        | _ => nan

def readWhole? (s : String) : Option Int :=
  let t := trim s.toList
  if t.isEmpty then some 0
  else match t with
    | '-' :: rest => (natural? 10 rest).map fun n => -(n : Int)
    | '+' :: rest => (natural? 10 rest).map Int.ofNat
    | _ => ((marked? t) <|> natural? 10 t).map Int.ofNat

end ScriptConsole.Engine.Numeral
