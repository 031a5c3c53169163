import ScriptConsole.Syntax.Diagnostic
import ScriptConsole.Text.Width

/-! Reports of parse errors: carets under the place at the prompt, line and column in a script. -/
namespace ScriptConsole.Report

/- The cells of a piece of a line; its bytes when it is cut inside a character. -/
def cellsOf (line : Text) (start stop : Nat) : Nat :=
  match Text.slice? line start stop with
  | some part => Text.cells part
  | none => stop - start

/- Dots up to the error and carets under it, then the message. A line other than the first is
shown above them. -/
def carets (source : Text) (d : Diagnostic) : Text :=
  let line := ((Text.lines source)[d.line - 1]?).getD []
  let size := Text.size line
  let start := min d.start size
  let stop := max start (min d.stop size)
  let width := if d.spansLines || start = stop then 1 else max (cellsOf line start stop) 1
  let echo := if 1 < d.line && !line.isEmpty then "    ".toList ++ line ++ ['\n'] else []
  echo ++ List.replicate (4 + cellsOf line 0 start) '.' ++ List.replicate width '^' ++
    "\n  | ".toList ++ d.message ++ ['\n']

def position (d : Diagnostic) : Text :=
  Text.ofNat d.line ++ ':' :: (Text.ofNat (d.start + 1) ++ ": ".toList ++ d.message)

end ScriptConsole.Report
