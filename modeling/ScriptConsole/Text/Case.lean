/-!
Capitals and small letters of the Latin, Greek and Cyrillic scripts. -/
namespace ScriptConsole.Case

/- Whether letters alternate between capital and small in a range that starts with a capital. -/
def alternates (n : Nat) : Bool :=
  (0x100 ≤ n && n ≤ 0x137 && n != 0x130 && n != 0x131) || (0x14A ≤ n && n ≤ 0x177) ||
    (0x1E00 ≤ n && n ≤ 0x1E95) || (0x1EA0 ≤ n && n ≤ 0x1EFF) || (0x460 ≤ n && n ≤ 0x481) ||
    (0x48A ≤ n && n ≤ 0x4BF) || (0x4D0 ≤ n && n ≤ 0x52F)

def alternatesLate (n : Nat) : Bool := (0x139 ≤ n && n ≤ 0x148) || (0x179 ≤ n && n ≤ 0x17E)

def upperNat (n : Nat) : Nat :=
  if n < 0x80 then if 0x61 ≤ n && n ≤ 0x7A then n - 32 else n
  else if 0xE0 ≤ n && n ≤ 0xFE && n != 0xF7 then n - 32
  else if n = 0xFF then 0x178
  else if n = 0xB5 then 0x39C
  else if alternates n then if n % 2 = 1 then n - 1 else n
  else if alternatesLate n then if n % 2 = 0 then n - 1 else n
  else if n = 0x3C2 then 0x3A3
  else if 0x3B1 ≤ n && n ≤ 0x3CB then n - 32
  else if n = 0x3AC then 0x386
  else if 0x3AD ≤ n && n ≤ 0x3AF then n - 37
  else if n = 0x3CC then 0x38C
  else if n = 0x3CD || n = 0x3CE then n - 63
  else if 0x430 ≤ n && n ≤ 0x44F then n - 32
  else if 0x450 ≤ n && n ≤ 0x45F then n - 80
  else n

def lowerNat (n : Nat) : Nat :=
  if n < 0x80 then if 0x41 ≤ n && n ≤ 0x5A then n + 32 else n
  else if 0xC0 ≤ n && n ≤ 0xDE && n != 0xD7 then n + 32
  else if n = 0x178 then 0xFF
  else if alternates n then if n % 2 = 0 then n + 1 else n
  else if alternatesLate n then if n % 2 = 1 then n + 1 else n
  else if 0x391 ≤ n && n ≤ 0x3AB && n != 0x3A2 then n + 32
  else if n = 0x386 then 0x3AC
  else if 0x388 ≤ n && n ≤ 0x38A then n + 37
  else if n = 0x38C then 0x3CC
  else if n = 0x38E || n = 0x38F then n + 63
  else if 0x410 ≤ n && n ≤ 0x42F then n + 32
  else if 0x400 ≤ n && n ≤ 0x40F then n + 80
  else n

/- The text in capitals; a sharp s becomes two. -/
def upper (s : String) : String :=
  String.ofList (s.toList.flatMap fun c =>
    if c == 'ß' then ['S', 'S'] else [Char.ofNat (upperNat c.toNat)])

def lower (s : String) : String := s.map fun c => Char.ofNat (lowerNat c.toNat)

end ScriptConsole.Case
