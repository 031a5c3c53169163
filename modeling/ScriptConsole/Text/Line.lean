import ScriptConsole.Text.Width

/-!
Logical lines: the pieces of a text between newlines. A function that takes a point answers only
for a point between two characters of the text. Columns count terminal cells. -/
namespace ScriptConsole.Text

def openLine (before : Text) : Text := (before.reverse.takeWhile (· != '\n')).reverse

def restOfLine (after : Text) : Text := after.takeWhile (· != '\n')

/- Number of logical lines; the empty text has one. -/
def lineCount (t : Text) : Nat := t.count '\n' + 1

structure Span where
  start : Nat
  stop : Nat
  deriving DecidableEq, Repr

def lineStart? (t : Text) (point : Nat) : Option Nat :=
  (split? t point).map fun (before, _) => point - size (openLine before)

/- Where the line of `point` ends: at its newline, or at the end of the text. -/
def lineEnd? (t : Text) (point : Nat) : Option Nat :=
  (split? t point).map fun (_, after) => point + size (restOfLine after)

def lineSpan? (t : Text) (point : Nat) : Option Span := do
  some ⟨← lineStart? t point, ← lineEnd? t point⟩

/- How many spaces precede `point` on its line, when nothing else does. -/
def leadingSpaces? (t : Text) (point : Nat) : Option (Option Nat) :=
  (split? t point).map fun (before, _) =>
    let line := openLine before
    if line.all (· == ' ') then some line.length else none

/- How many spaces open the line of `point`, counted no further than `point`. -/
def indent? (t : Text) (point : Nat) : Option Nat :=
  (split? t point).map fun (before, _) => ((openLine before).takeWhile (· == ' ')).length

def column? (t : Text) (point : Nat) : Option Nat :=
  (split? t point).map fun (before, _) => cells (openLine before)

/- Bytes of the characters that stand before `column`, the first of them at column `at_`. -/
def bytesToColumn (column : Nat) : (at_ : Nat) → Text → Nat
  | _, [] => 0
  | at_, c :: rest =>
      if column ≤ at_ then 0 else c.utf8Size + bytesToColumn column (at_ + cellWidth c) rest

/- The first offset of `line` whose column is at least `column`, or the end of the line. -/
def offsetAtColumn? (t : Text) (line : Span) (column : Nat) : Option Nat :=
  (slice? t line.start line.stop).map fun part => line.start + bytesToColumn column 0 part

end ScriptConsole.Text
