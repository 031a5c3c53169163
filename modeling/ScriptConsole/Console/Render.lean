import ScriptConsole.Json.Parser

/-! How a result is shown: as it came, unescaped when it is a string literal, or as JSON on several
lines. -/
namespace ScriptConsole

inductive Rendered
  | code (t : Text)
  | text (t : Text)
  deriving DecidableEq, Repr

namespace Rendered

def escaped? : Char → Option Char
  | '\\' => some '\\'
  | '\'' => some '\''
  | '"' => some '"'
  | 'b' => some '\x08'
  | 'f' => some '\x0c'
  | 'n' => some '\n'
  | 'r' => some '\r'
  | 't' => some '\t'
  | 'v' => some '\x0b'
  | _ => none

/- Resolves escapes; an unknown one stays as it is. -/
def unescape : Text → Text
  | '\\' :: c :: rest =>
      match escaped? c with
      | some d => d :: unescape rest
      | none => '\\' :: c :: unescape rest
  | c :: rest => c :: unescape rest
  | [] => []

/- The body of a literal in double or single quotes, with or without `@` before it. -/
def literalBody? (value : Text) : Option Text :=
  let value := match value with
    | '@' :: rest => rest
    | _ => value
  match value with
  | quote :: rest =>
      if (quote = '"' || quote = '\'') && rest.getLast? = some quote then some rest.dropLast
      else none
  | [] => none

def literal? (value : Text) : Option Text := (literalBody? value).map unescape

def prettyJson? (value : Text) : Option Text :=
  match Json.parse? value with
  | some (.array items) => some (Json.pretty 0 (.array items))
  | some (.object members) => some (Json.pretty 0 (.object members))
  | _ => none

def ofValue (expand pretty : Bool) (value : Text) : Rendered :=
  match if expand then literal? value else none with
  | some t => .text t
  | none => .code ((if pretty then prettyJson? value else none).getD value)

end Rendered

end ScriptConsole
