/-!
Texts in UTF-16 units. A half of a pair that stands alone is read as the replacement character. -/
namespace ScriptConsole.Units

def ofChar (c : Char) : List Nat :=
  if c.toNat < 0x10000 then [c.toNat]
  else [0xD800 + (c.toNat - 0x10000) / 0x400, 0xDC00 + (c.toNat - 0x10000) % 0x400]

def ofString (s : String) : List Nat := s.toList.flatMap ofChar

def isHigh (u : Nat) : Bool := 0xD800 ≤ u && u < 0xDC00
def isLow (u : Nat) : Bool := 0xDC00 ≤ u && u < 0xE000

/- The characters of units; a number beyond 16 bits stands for itself. -/
def chars : List Nat → List Char
  | [] => []
  | [u] => [if isHigh u || isLow u then '\ufffd' else Char.ofNat u]
  | u :: v :: rest =>
      if isHigh u && isLow v then
        Char.ofNat (0x10000 + (u - 0xD800) * 0x400 + (v - 0xDC00)) :: chars rest
      else (if isHigh u || isLow u then '\ufffd' else Char.ofNat u) :: chars (v :: rest)

def toString (units : List Nat) : String := String.ofList (chars units)

def length (s : String) : Nat := s.foldl (fun n c => if c.toNat < 0x10000 then n + 1 else n + 2) 0

def slice (s : String) (start stop : Nat) : String :=
  if length s = s.length then String.ofList ((s.toList.drop start).take (stop - start))
  else toString (((ofString s).drop start).take (stop - start))

def at? (s : String) (n : Nat) : Option String :=
  if n < length s then some (slice s n (n + 1)) else none

end ScriptConsole.Units
