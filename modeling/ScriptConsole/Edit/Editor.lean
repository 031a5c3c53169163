import ScriptConsole.Text.Line
import ScriptConsole.Text.Class
import ScriptConsole.Edit.Buffer
import ScriptConsole.Edit.Key
import ScriptConsole.Edit.Completion
import ScriptConsole.History.Recall
import ScriptConsole.Syntax.Diagnostic

/-!
The prompt of several lines: what each key does to the text. Enter at the end asks the language: a
source whose errors all lie on its last line is submitted, one with an error anywhere else is still
open and gets a new line. Every operation answers `none` if an offset falls outside the text or
inside a character. -/
namespace ScriptConsole

def indentWidth : Nat := 4

inductive Outcome
  | ignored
  | changed
  | submit (t : Text)
  | endOfFile
  | abort
  | candidates (l : List Text)
  deriving DecidableEq, Repr

structure Completer (κ : Type) where
  complete : κ → Text → Text → List Text × κ

structure Surroundings (κ : Type) where
  language : Language
  entries : List Text
  completer : Completer κ
  bypass : Bool

structure Editor where
  buffer : Buffer := {}
  recalled : Recall := {}
  deriving DecidableEq, Repr

namespace Editor

def spaces (n : Nat) : Text := List.replicate n ' '

def withBuffer (e : Editor) (b : Buffer) : Editor := { e with buffer := b }

def moveTo (e : Editor) (point : Nat) : Outcome × Editor :=
  if point = e.buffer.point then (.ignored, e)
  else (.changed, e.withBuffer (e.buffer.setPoint point))

def moveTo? (e : Editor) : Option Nat → Outcome × Editor
  | some point => e.moveTo point
  | none => (.ignored, e)

def submit (e : Editor) : Outcome × Editor := (.submit e.buffer.text, {})

/-- Inserts a newline and the spaces that open the line; spaces that are all there is before the
point move to the new line. -/
def breakLine (e : Editor) : Option Editor := do
  let b := e.buffer
  let indent ← Text.indent? b.text b.point
  let b ← match ← Text.leadingSpaces? b.text b.point with
    | some _ => b.delete? (← Text.lineStart? b.text b.point) b.point
    | none => some b
  let b ← b.insert? ['\n']
  e.withBuffer (← b.insert? (spaces indent))

/- Enter. Before the end, a text of one line is submitted and a longer one is broken. -/
def enter {κ : Type} (e : Editor) (s : Surroundings κ) : Option (Outcome × Editor) :=
  let text := e.buffer.text
  if !e.buffer.atEnd then
    if text.contains '\n' then e.breakLine.map (.changed, ·) else some e.submit
  else if s.bypass || text.head? = some '?' then some e.submit
  else
    match s.language.check (text ++ ['\n']) with
    | .ok () => some e.submit
    | .error diagnostics =>
        if diagnostics.any (·.line != Text.lineCount text) then e.breakLine.map (.changed, ·)
        else some e.submit

def lineUp (e : Editor) (entries : List Text) : Option (Outcome × Editor) := do
  let b := e.buffer
  let start ← Text.lineStart? b.text b.point
  let column ← Text.column? b.text b.point
  if start = 0 then
    match e.recalled.previous entries b.text with
    | (none, recalled) => some (.ignored, { e with recalled })
    | (some entry, recalled) =>
        let line ← Text.lineSpan? entry (Text.size entry)
        some (.changed, ⟨.replace entry (← Text.offsetAtColumn? entry line column), recalled⟩)
  else
    let line ← Text.lineSpan? b.text (start - 1)
    some (.changed, (e.moveTo (← Text.offsetAtColumn? b.text line column)).2)

def lineDown (e : Editor) (entries : List Text) : Option (Outcome × Editor) := do
  let b := e.buffer
  let stop ← Text.lineEnd? b.text b.point
  let column ← Text.column? b.text b.point
  if stop = Text.size b.text then
    match e.recalled.next entries with
    | (none, recalled) => some (.ignored, { e with recalled })
    | (some entry, recalled) =>
        let line ← Text.lineSpan? entry 0
        some (.changed, ⟨.replace entry (← Text.offsetAtColumn? entry line column), recalled⟩)
  else
    let line ← Text.lineSpan? b.text (stop + 1)
    some (.changed, (e.moveTo (← Text.offsetAtColumn? b.text line column)).2)

def lineHome (e : Editor) : Option (Outcome × Editor) :=
  (Text.lineStart? e.buffer.text e.buffer.point).map e.moveTo

def lineEnd (e : Editor) : Option (Outcome × Editor) :=
  (Text.lineEnd? e.buffer.text e.buffer.point).map e.moveTo

def charLeft (e : Editor) : Option (Outcome × Editor) := e.buffer.previous?.map e.moveTo?

def charRight (e : Editor) : Option (Outcome × Editor) := e.buffer.next?.map e.moveTo?

def cut (e : Editor) (start stop : Nat) : Option (Outcome × Editor) :=
  (e.buffer.delete? start stop).map fun b => (.changed, e.withBuffer b)

/- Removes the character before the point, or the spaces back to an indent stop when only spaces
precede it on its line. -/
def backspace (e : Editor) : Option (Outcome × Editor) := do
  let point := e.buffer.point
  match ← e.buffer.previous? with
  | none => some (.ignored, e)
  | some previous =>
      match ← Text.leadingSpaces? e.buffer.text point with
      | some (run + 1) =>
          let partialStop := (run + 1) % indentWidth
          let count := if partialStop = 0 then indentWidth else partialStop
          e.cut (point - count) point
      | _ => e.cut previous point

def deleteForward (e : Editor) : Option (Outcome × Editor) := do
  match ← e.buffer.next? with
  | none => some (.ignored, e)
  | some next => e.cut e.buffer.point next

def killToEnd (e : Editor) : Option (Outcome × Editor) := do
  let stop ← Text.lineEnd? e.buffer.text e.buffer.point
  if stop = e.buffer.point then some (.ignored, e) else e.cut e.buffer.point stop

def killToStart (e : Editor) : Option (Outcome × Editor) := do
  let start ← Text.lineStart? e.buffer.text e.buffer.point
  if start = e.buffer.point then some (.ignored, e) else e.cut start e.buffer.point

def put (e : Editor) (t : Text) : Option (Outcome × Editor) :=
  (e.buffer.insert? t).map fun b => (.changed, e.withBuffer b)

/- In the indentation, inserts spaces to the next indent stop; elsewhere completes the word. -/
def tab {κ : Type} (e : Editor) (s : Surroundings κ) (k : κ) : Option (Outcome × Editor × κ) := do
  let b := e.buffer
  match ← Text.leadingSpaces? b.text b.point with
  | some run =>
      let (outcome, e) ← e.put (spaces (indentWidth - run % indentWidth))
      some (outcome, e, k)
  | none =>
      let start ← Completion.wordStart? b.text b.point
      let word ← Text.slice? b.text start b.point
      let context ← Text.slice? b.text 0 start
      let (candidates, k) := s.completer.complete k context word
      match Completion.resolve word candidates with
      | .nothing => some (.ignored, e, k)
      | .insert rest =>
          let (outcome, e) ← e.put rest
          some (outcome, e, k)
      | .list candidates => some (.candidates candidates, e, k)

def control {κ : Type} (e : Editor) (s : Surroundings κ) (k : κ) (c : Char) :
    Option (Outcome × Editor × κ) :=
  let plain (answer : Option (Outcome × Editor)) : Option (Outcome × Editor × κ) :=
    answer.map fun (outcome, e) => (outcome, e, k)
  match c with
  | 'c' => some (.abort, e, k)
  | 'd' => if e.buffer.isEmpty then some (.endOfFile, e, k) else plain e.deleteForward
  | 'a' => plain e.lineHome
  | 'e' => plain e.lineEnd
  | 'p' => plain (e.lineUp s.entries)
  | 'n' => plain (e.lineDown s.entries)
  | 'b' => plain e.charLeft
  | 'f' => plain e.charRight
  | 'k' => plain e.killToEnd
  | 'u' => plain e.killToStart
  | 'j' | 'm' => plain (e.enter s)
  | 'i' => e.tab s k
  | 'h' => plain e.backspace
  | _ => some (.ignored, e, k)

def press {κ : Type} (e : Editor) (s : Surroundings κ) (k : κ) (key : Key) :
    Option (Outcome × Editor × κ) :=
  let plain (answer : Option (Outcome × Editor)) : Option (Outcome × Editor × κ) :=
    answer.map fun (outcome, e) => (outcome, e, k)
  match key.code with
  | .enter => plain (e.enter s)
  | .up => plain (e.lineUp s.entries)
  | .down => plain (e.lineDown s.entries)
  | .home => plain e.lineHome
  | .lineEnd => plain e.lineEnd
  | .left => plain e.charLeft
  | .right => plain e.charRight
  | .backspace => plain e.backspace
  | .delete => plain e.deleteForward
  | .tab => e.tab s k
  | .char c =>
      if key.control then e.control s k c.toLower
      else if key.alt then some (.ignored, e, k)
      else plain (e.put [c])
  | _ => some (.ignored, e, k)

/-- Pasted text as it is inserted: a tab is four spaces, every line break one newline, and no other
control character stays. -/
def normalize : Text → Text
  | '\r' :: '\n' :: rest => '\n' :: normalize rest
  | c :: rest =>
      if c = '\t' then spaces indentWidth ++ normalize rest
      else if c = '\r' || c = '\n' then '\n' :: normalize rest
      else if Text.isControl c then normalize rest
      else c :: normalize rest
  | [] => []

def paste (e : Editor) (t : Text) : Option (Outcome × Editor) :=
  let cleaned := normalize t
  if cleaned.isEmpty then some (.ignored, e) else e.put cleaned

end Editor

end ScriptConsole
