import ScriptConsole.Text.Offset

/-!
The text being edited and the insertion point, a byte offset. An operation at an offset inside a
character, or past the end, has no result. -/
namespace ScriptConsole

structure Buffer where
  text : Text := []
  point : Nat := 0
  deriving DecidableEq, Repr

namespace Buffer

def empty : Buffer := {}

def isEmpty (b : Buffer) : Bool := b.text.isEmpty

def atEnd (b : Buffer) : Bool := b.point == Text.size b.text

/- Moves the point to the last good offset that is at most `n`. -/
def setPoint (b : Buffer) (n : Nat) : Buffer := { b with point := Text.floorOffset b.text n }

def insert? (b : Buffer) (s : Text) : Option Buffer :=
  (Text.split? b.text b.point).map fun (before, after) =>
    ⟨before ++ s ++ after, b.point + Text.size s⟩

def insertChar? (b : Buffer) (c : Char) : Option Buffer := b.insert? [c]

/- Removes the text between two offsets, both brought into the text first; a point inside the
range moves to its start. -/
def delete? (b : Buffer) (start stop : Nat) : Option Buffer := do
  let size := Text.size b.text
  let start := min start size
  let stop := max start (min stop size)
  let (before, tail) ← Text.split? b.text start
  let (_, after) ← Text.split? tail (stop - start)
  let point :=
    if stop ≤ b.point then b.point - (stop - start)
    else if start < b.point then start
    else b.point
  some ⟨before ++ after, point⟩

/- The offset one character before the point; the inner `none` is the start of the text. -/
def previous? (b : Buffer) : Option (Option Nat) :=
  (Text.split? b.text b.point).map fun (before, _) =>
    before.getLast?.map fun c => b.point - c.utf8Size

/- The offset one character after the point; the inner `none` is the end of the text. -/
def next? (b : Buffer) : Option (Option Nat) :=
  (Text.split? b.text b.point).map fun (_, after) =>
    after.head?.map fun c => b.point + c.utf8Size

def replace (t : Text) (point : Nat) : Buffer := setPoint ⟨t, 0⟩ point

/- The text, and the buffer that is left without it. -/
def take (b : Buffer) : Text × Buffer := (b.text, empty)

inductive Edit
  | insert (s : Text)
  | insertChar (c : Char)
  | setPoint (n : Nat)
  | delete (start stop : Nat)
  | replace (t : Text) (point : Nat)
  | take
  deriving DecidableEq, Repr

def edit? (b : Buffer) : Edit → Option Buffer
  | .insert s => b.insert? s
  | .insertChar c => b.insertChar? c
  | .setPoint n => some (b.setPoint n)
  | .delete start stop => b.delete? start stop
  | .replace t n => some (replace t n)
  | .take => some b.take.2

end Buffer

end ScriptConsole
