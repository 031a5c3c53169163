import ScriptConsole.System.Files

/-!
The submitted entries, newest last and at most so many. The file keeps one record for each line, so
a newline inside an entry is folded into U+0001 on its way out and restored on its way in. -/
namespace ScriptConsole

inductive Persistence
  -- Each as soon as it is appended.
  | incremental
  -- All together when the history is closed.
  | onExit
  deriving DecidableEq, Repr

structure History where
  path : Option Path
  entries : List Text
  persistence : Persistence
  maxEntries : Nat
  added : Nat := 0
  closed : Bool := false
  deriving DecidableEq, Repr

namespace History

def fold : Char := '\x01'

def encodeEntry (entry : Text) : Text := entry.map fun c => if c = '\n' then fold else c

def decodeEntry (record : Text) : Text := record.map fun c => if c = fold then '\n' else c

def lastN {α : Type} (n : Nat) (l : List α) : List α := l.drop (l.length - n)

def entriesOf (content : Bytes) : List Text :=
  ((Text.lines (Utf8.decodeLossy content)).filter (!·.isEmpty)).map decodeEntry

def recordBytes (entry : Text) : Bytes := Utf8.encode (encodeEntry entry ++ ['\n'])

def bytesOf (entries : List Text) : Bytes := entries.flatMap recordBytes

/- An empty history without a file; it keeps at least one entry. -/
def inMemory (maxEntries : Nat) : History := ⟨none, [], .onExit, max maxEntries 1, 0, false⟩

def trim (h : History) : History := { h with entries := lastN h.maxEntries h.entries }

def rewrite (h : History) (files : Files) : Except IoError Files :=
  match h.path with
  | none => .ok files
  | some path => files.write path (bytesOf h.entries)

/-- Reads the file at a path; a missing one is an empty history. An incremental history writes the
file anew at once, which drops what is beyond the limit. -/
def load (files : Files) (path : Path) (persistence : Persistence) (maxEntries : Nat) :
    Except IoError (History × Files) := do
  let entries ← match files.read path with
    | .ok content => pure (entriesOf content)
    | .error .notFound => pure []
    | .error e => throw e
  let history := trim ⟨some path, entries, persistence, max maxEntries 1, 0, false⟩
  match persistence with
  | .incremental => return (history, ← history.rewrite files)
  | .onExit => return (history, files)

/-- Adds an entry; the empty one is not kept. When writing the record fails, the entry is still
kept in memory. -/
def append (h : History) (entry : Text) (files : Files) : History × Except IoError Files :=
  if entry.isEmpty then (h, .ok files)
  else
    let grown := trim { h with entries := h.entries ++ [entry], added := h.added + 1 }
    match h.persistence, h.path with
    | .incremental, some path => (grown, files.append path (recordBytes entry))
    | _, _ => (grown, .ok files)

/- Closes the history once; an on-exit history with new entries writes its file. -/
def close (h : History) (files : Files) : History × Except IoError Files :=
  if h.closed then (h, .ok files)
  else
    let closed := { h with closed := true }
    match h.persistence with
    | .onExit => (closed, if 0 < h.added then h.rewrite files else .ok files)
    | .incremental => (closed, .ok files)

end History

end ScriptConsole
