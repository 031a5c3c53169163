import ScriptConsole.Script.Faults

/-!
Dropping comments and blanks. Tokens are kept as they are; where a line ended between two of them one
line end stays, so that a semicolon it stood for is still there, and where two would run together a
space stays. -/
namespace ScriptConsole.Script

namespace Minify

def joins (c : Char) : Bool :=
  isLetter c || isDigit c || c == '_' || c == '$' || 0x80 ≤ c.toNat

def needsSpace (left right : Text) : Bool :=
  match left.getLast?, right.head? with
  | some l, some r =>
      (joins l && joins r) || (l == '+' && r == '+') || (l == '-' && r == '-') ||
        (l == '/' && r == '/') || (isDigit l && r == '.')
  | _, _ => false

def separator (left gap right : Text) : Text :=
  if gap.contains '\n' then ['\n']
  else if !gap.isEmpty && needsSpace left right then [' ']
  else []

def between (source : Text) (start stop : Nat) : Text := (source.drop start).take (stop - start)

def joinAfter (source left : Text) (last : Nat) : List (Nat × Nat) → Text
  | [] => []
  | (start, stop) :: rest =>
      let token := between source start stop
      separator left (between source last start) token ++ token ++
        joinAfter source token stop rest

def join (source : Text) : List (Nat × Nat) → Text
  | [] => []
  | (start, stop) :: rest =>
      let token := between source start stop
      token ++ joinAfter source token stop rest

def isAtomic (kind : String) : Bool :=
  ["string", "template_string", "regex"].contains kind

mutual

def tokens (node : Node) : List (Nat × Nat) :=
  if node.kind = "comment" then []
  else if node.children.isEmpty || isAtomic node.kind then
    if node.start < node.stop then [(node.start, node.stop)] else []
  else tokensOf node.children
termination_by (sizeOf node, 0)
decreasing_by
  exact Prod.Lex.left _ _ (Node.childrenSmaller node)

def tokensOf : List Node → List (Nat × Nat)
  | [] => []
  | node :: rest => tokens node ++ tokensOf rest
termination_by nodes => (sizeOf nodes, 1)
decreasing_by
  all_goals
    simp only [List.cons.sizeOf_spec]
    apply Prod.Lex.left
    omega

end

end Minify

def minify (source : Text) (root : Node) : Text := Minify.join source (Minify.tokens root)

namespace Tongue

def compile (tongue : Tongue) (text : Text) (options : CompileOptions) :
    Except (List Diagnostic) Text := do
  let root ← tongue.check (.ofText text)
  let directive := if options.strict then
    strictDirective ++ [if options.minify then ' ' else '\n'] else []
  return directive ++ if options.minify then minify text root else text

def language (tongue : Tongue) : Language where
  check text := (tongue.check (.ofText text)).map fun _ => ()
  compile := tongue.compile

end Tongue

end ScriptConsole.Script
