import ScriptConsole.Text.Offset

/-!
Unsigned decimal numbers: an optional plus sign and one or more ASCII digits, up to a bound. -/
namespace ScriptConsole.Text

def digit? (c : Char) : Option Nat :=
  if '0' ≤ c && c ≤ '9' then some (c.toNat - '0'.toNat) else none

/- The number that digits continue, `value` being the number before them. -/
def digitsFrom? (value : Nat) : Text → Option Nat
  | [] => some value
  | c :: rest => do digitsFrom? (value * 10 + (← digit? c)) rest

def unsigned? (bound : Nat) (t : Text) : Option Nat := do
  let digits := match t with
    | '+' :: rest => rest
    | _ => t
  if digits.isEmpty then none
  else
    let value ← digitsFrom? 0 digits
    if value ≤ bound then some value else none

end ScriptConsole.Text
