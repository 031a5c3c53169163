import ScriptConsole.Text.Offset

/-! Control sequences of a terminal: relative rows, absolute column, erasing, and colours. -/
namespace ScriptConsole.Escape

def sequence (n : Nat) (final : Char) : Text := '\x1b' :: '[' :: (Text.ofNat n ++ [final])

def limit : Nat := 65535

/- Moves the cursor down, or up for a negative count; no row at all for zero. -/
def vertical (rows : Int) : Text :=
  if rows < 0 then sequence (min rows.natAbs limit) 'A'
  else if 0 < rows then sequence (min rows.natAbs limit) 'B'
  else []

def column (col : Int) : Text := sequence ((min col.toNat limit + 1) % (limit + 1)) 'G'

def eraseLine : Text := "\x1b[K".toList

def eraseScreen : Text := "\x1b[J".toList

inductive Colour
  | darkGrey | magenta | yellow | darkYellow | blue | cyan | green
  deriving DecidableEq, Repr

def Colour.index : Colour → Nat
  | .darkGrey => 8
  | .magenta => 13
  | .yellow => 11
  | .darkYellow => 3
  | .blue => 12
  | .cyan => 14
  | .green => 10

def foreground (c : Colour) : Text := "\x1b[38;5;".toList ++ Text.ofNat c.index ++ ['m']

def resetColour : Text := "\x1b[0m".toList

def isFinal (c : Char) : Bool := '@' ≤ c && c ≤ '~'

def afterSequence (t : Text) : Text := (t.dropWhile (!isFinal ·)).drop 1

theorem afterSequenceLength (t : Text) : (afterSequence t).length ≤ t.length := by
  have := (List.dropWhile_sublist (fun c => !isFinal c) (l := t)).length_le
  simp only [afterSequence, List.length_drop]
  omega

def strip : Text → Text
  | '\x1b' :: '[' :: rest => strip (afterSequence rest)
  | c :: rest => c :: strip rest
  | [] => []
  termination_by t => t.length
  decreasing_by
    · have := afterSequenceLength rest
      simp only [List.length_cons]
      omega
    · simp only [List.length_cons]
      omega

end ScriptConsole.Escape
