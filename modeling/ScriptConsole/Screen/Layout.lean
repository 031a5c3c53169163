import ScriptConsole.Text.Width
import ScriptConsole.Screen.Escape

/-!
Where text lands on a screen of a given width: positions are rows and columns from the start of the
prompt, and one step takes a position over one character. Steps count rows without end. Rows are kept in
32 bits, and as a step only adds to them it is enough to reduce them where they are read: `held` is the
position that is kept. A column is at most a width or an indent, and 32 bits are more than it needs. -/
namespace ScriptConsole

structure Position where
  row : Int
  col : Int
  deriving DecidableEq, Repr

namespace Position

def origin : Position := ⟨0, 0⟩

/- A number in 32 bits; past the greatest they go on from the least. -/
def wrap (n : Int) : Int := (Int32.ofInt n).toInt

def held (p : Position) : Position := ⟨wrap p.row, p.col⟩

end Position

def continuationIndent : Nat := 4

inductive Effect
  | print
  -- The character fills its row, and the next row starts.
  | printWrap
  -- The character does not fit, so the next row starts before it.
  | wrapPrint
  | newline
  -- A control character other than the newline is not painted.
  | skip
  deriving DecidableEq, Repr

/-- The position after a character, and what the character does. A width of 0 counts as 1. -/
def advance (p : Position) (c : Char) (width : Nat) : Position × Effect :=
  let width : Int := max width 1
  if c = '\n' then (⟨p.row + 1, continuationIndent⟩, .newline)
  else if Text.isControl c then (p, .skip)
  else
    let cells : Int := Text.cellWidth c
    let (next, effect) : Position × Effect :=
      if 0 < p.col ∧ width < p.col + cells then (⟨p.row + 1, cells⟩, .wrapPrint)
      else (⟨p.row, p.col + cells⟩, .print)
    if width ≤ next.col then (⟨next.row + 1, 0⟩, .printWrap) else (next, effect)

def advances (p : Position) (width : Nat) : Text → List (Position × Effect)
  | [] => []
  | c :: rest => advance p c width :: advances (advance p c width).1 width rest

def Effect.output (c : Char) : Effect → Text
  | print => [c]
  | printWrap => c :: '\r' :: '\n' :: Escape.eraseScreen
  | wrapPrint => Escape.eraseLine ++ '\r' :: '\n' :: Escape.eraseScreen ++ [c]
  | newline => Escape.eraseLine ++ '\r' :: '\n' :: List.replicate continuationIndent ' '
  | skip => []

end ScriptConsole
