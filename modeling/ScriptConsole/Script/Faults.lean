import ScriptConsole.Script.Outline
import ScriptConsole.Syntax.Diagnostic

/-!
The diagnostics of a text: one for each missing token and for each stretch of text that fits
nowhere, in the order of their places. What is wrong behind the last content is put on the line
after it, where a reader sees that the text ran out. -/
namespace ScriptConsole.Script

namespace Faults

def maxQuoted : Nat := 20

def quoted (lead : String) (text : Text) : Text := lead.toList ++ ('\x60' :: text) ++ ['\x60']

def diagnostic (source : Source) (node : Node) (message : Text) : Diagnostic :=
  if source.byte node.start ≥ Text.size (Text.trimEnd source.text) then
    .endOfInput source.text message
  else
    let start := source.column node.start
    let oneLine := source.row node.start = source.row node.stop
    { line := source.row node.start + 1
      endLine := source.row node.stop + 1
      start := start
      stop := if oneLine then source.column node.stop else start
      message := message }

mutual

def ofNode (source : Source) (node : Node) : List Diagnostic :=
  if node.missing then [diagnostic source node (quoted "expected " node.kind.toList)]
  else if node.isError then
    let leaf := node.firstLeaf
    let text := (source.slice leaf.start leaf.stop).take maxQuoted
    [diagnostic source node
      (if text.isEmpty then "syntax error".toList else quoted "unexpected " text)]
  else if node.cost = 0 then []
  else ofNodes source node.children
termination_by (sizeOf node, 0)
decreasing_by
  exact Prod.Lex.left _ _ (Node.childrenSmaller node)

def ofNodes (source : Source) : List Node → List Diagnostic
  | [] => []
  | node :: rest => ofNode source node ++ ofNodes source rest
termination_by nodes => (sizeOf nodes, 1)
decreasing_by
  all_goals
    simp only [List.cons.sizeOf_spec]
    apply Prod.Lex.left
    omega

end

def sorted (diagnostics : List Diagnostic) : List Diagnostic :=
  diagnostics.mergeSort fun a b => a.line < b.line || (a.line = b.line && a.start ≤ b.start)

/-- The diagnostics of an outline that has errors. A text that stops inside a construct is said to
stop too soon, unless that line has a diagnostic already. -/
def ofOutline (source : Source) (root : Node) : List Diagnostic :=
  let found := ofNode source root
  let found := if found.isEmpty then [⟨1, 1, 0, 0, "syntax error".toList⟩] else found
  let line := Diagnostic.lineAfterContent source.text
  sorted (if Continuation.endsInside source.text && found.all (·.line != line) then
    found ++ [.endOfInput source.text Diagnostic.unexpectedEnd] else found)

end Faults

namespace Tongue

def check (tongue : Tongue) (source : Source) : Except (List Diagnostic) Node :=
  let root := tongue.outline source
  if root.cost = 0 then .ok root else .error (Faults.ofOutline source root)

end Tongue

end ScriptConsole.Script
