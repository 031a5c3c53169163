/-!
Text as a list of characters, measured in the bytes of its UTF-8 form. An offset is good when it
falls between two characters; `split?` is the only way from an offset to text, and it refuses every
other offset. -/
namespace ScriptConsole

abbrev Text := List Char

namespace Text

def size : Text → Nat
  | [] => 0
  | c :: rest => c.utf8Size + size rest

def split? : Text → Nat → Option (Text × Text)
  | t, 0 => some ([], t)
  | [], _ + 1 => none
  | c :: rest, n + 1 =>
      if c.utf8Size ≤ n + 1 then
        (split? rest (n + 1 - c.utf8Size)).map fun (before, after) => (c :: before, after)
      else none

def slice? (t : Text) (start stop : Nat) : Option Text := do
  if stop < start then none
  else
    let (_, tail) ← split? t start
    let (part, _) ← split? tail (stop - start)
    some part

def floorOffset : Text → Nat → Nat
  | [], _ => 0
  | c :: rest, n => if c.utf8Size ≤ n then c.utf8Size + floorOffset rest (n - c.utf8Size) else 0

def startsWith : (t lead : Text) → Bool
  | _, [] => true
  | [], _ :: _ => false
  | c :: rest, d :: lead => c == d && startsWith rest lead

def dropLead? : (t lead : Text) → Option Text
  | t, [] => some t
  | [], _ :: _ => none
  | c :: rest, d :: lead => if c = d then dropLead? rest lead else none

/- The pieces between the occurrences of a separator; never empty. -/
def splitOn (sep : Char) : Text → List Text
  | [] => [[]]
  | c :: rest =>
      if c = sep then [] :: splitOn sep rest
      else match splitOn sep rest with
        | piece :: pieces => (c :: piece) :: pieces
        | [] => [[c]]

/-- Lines ended by a newline or by a carriage return and a newline. A last piece without a newline
is a line only when it is not empty, and keeps its carriage return. -/
def lines (t : Text) : List Text :=
  let pieces := splitOn '\n' t
  let ended := pieces.dropLast.map fun l => if l.getLast? = some '\r' then l.dropLast else l
  match pieces.getLast? with
  | some [] | none => ended
  | some last => ended ++ [last]

def sharedLead : Text → Text → Text
  | c :: r, d :: s => if c = d then c :: sharedLead r s else []
  | _, _ => []

def lt : Text → Text → Bool
  | _, [] => false
  | [], _ :: _ => true
  | c :: r, d :: s => c.val < d.val || (c == d && lt r s)

def le (a b : Text) : Bool := !lt b a

def ofNat (n : Nat) : Text := (Nat.repr n).toList

end Text

end ScriptConsole
