import ScriptConsole.Syntax.Continuation

/-!
Parse errors, and what a console asks of a language: is this source valid, and what code does it
compile to. A diagnostic on the line after the last one with content says that the input ran out. -/
namespace ScriptConsole

structure Diagnostic where
  line : Nat
  endLine : Nat
  start : Nat
  stop : Nat
  message : Text
  deriving DecidableEq, Repr

def Diagnostic.spansLines (d : Diagnostic) : Bool := d.endLine != d.line

structure CompileOptions where
  minify : Bool := false
  strict : Bool := false
  deriving DecidableEq, Repr

structure Language where
  check : Text → Except (List Diagnostic) Unit
  compile : Text → CompileOptions → Except (List Diagnostic) Text

namespace Diagnostic

def lineAfterContent (source : Text) : Nat := (Text.trimEnd source).count '\n' + 2

def endOfInput (source : Text) (message : Text) : Diagnostic :=
  ⟨lineAfterContent source, lineAfterContent source, 0, 0, message⟩

def unexpectedEnd : Text := "unexpected end of input".toList

end Diagnostic

def strictDirective : Text := "\"use strict\";".toList

namespace Language

def constant (errors : List Diagnostic) : Language where
  check _ := if errors.isEmpty then .ok () else .error errors
  compile source _ := if errors.isEmpty then .ok source else .error errors

def marker? : Text → Option Nat
  | '@' :: '@' :: _ => some 0
  | c :: rest => (marker? rest).map (c.utf8Size + ·)
  | [] => none

def markerErrors (line : Nat) : List Text → List Diagnostic
  | [] => []
  | row :: rows =>
      match marker? row with
      | some n =>
          ⟨line, line, n, n + 2, "unexpected `@@`".toList⟩ :: markerErrors (line + 1) rows
      | none => markerErrors (line + 1) rows

/- The errors of the lexical language: one for each line with a marker, and one after the last
line when the source ends inside a construct. -/
def lexicalErrors (source : Text) : List Diagnostic :=
  markerErrors 1 (Text.splitOn '\n' source) ++
    if Continuation.endsInside source then
      [Diagnostic.endOfInput source Diagnostic.unexpectedEnd]
    else []

/- A language known by its brackets and literals alone, in which `@@` is always wrong. -/
def lexical : Language where
  check source :=
    match lexicalErrors source with
    | [] => .ok ()
    | errors => .error errors
  compile source options :=
    match lexicalErrors source with
    | [] => .ok (if options.strict then strictDirective ++ '\n' :: source else source)
    | errors => .error errors

end Language

end ScriptConsole
