import ScriptConsole.System.IoError
import ScriptConsole.Text.Utf8

/-!
A tree of files as a value: what stands at each absolute path, with the age of a file and the
permissions of a directory. The root always exists. Every operation names the failure that the
system would report. -/
namespace ScriptConsole

abbrev Path := List Text

inductive FileNode
  | file (content : Bytes) (ageDays : Nat)
  | directory (mode : Nat)
  | socket
  deriving DecidableEq, Repr

structure Files where
  entries : List (Path × FileNode) := []
  deriving DecidableEq, Repr

namespace Path

/-- The absolute path that a written path means in a directory; `.` and empty names stand for
nothing, `..` for the directory above. -/
def resolve (directory : Path) (written : Text) : Path :=
  let start := if written.head? = some '/' then [] else directory
  (Text.splitOn '/' written).foldl (fun path name =>
    if name = [] || name = ['.'] then path
    else if name = ['.', '.'] then path.dropLast
    else path ++ [name]) start

def join (directory name : Text) : Text :=
  if name.head? = some '/' || directory = [] then name
  else if directory.getLast? = some '/' then directory ++ name
  else directory ++ '/' :: name

end Path

namespace Files

def at? (files : Files) (path : Path) : Option FileNode :=
  if path = [] then some (.directory 0o755) else (files.entries.find? (·.1 = path)).map (·.2)

def ancestors (path : Path) : List Path := (List.range path.length).map path.take

def find (files : Files) (path : Path) : Except IoError FileNode := do
  for above in ancestors path do
    match files.at? above with
    | some (.directory _) => pure ()
    | some _ => throw .notADirectory
    | none => throw .notFound
  match files.at? path with
  | some node => pure node
  | none => throw .notFound

def put (files : Files) (path : Path) (node : FileNode) : Files :=
  if files.entries.any (·.1 = path) then
    ⟨files.entries.map fun (p, old) => if p = path then (p, node) else (p, old)⟩
  else ⟨files.entries ++ [(path, node)]⟩

def erase (files : Files) (path : Path) : Files := ⟨files.entries.filter (·.1 ≠ path)⟩

def read (files : Files) (path : Path) : Except IoError Bytes := do
  match ← files.find path with
  | .file content _ => pure content
  | .directory _ => throw .isADirectory
  | .socket => throw .other

def readText (files : Files) (path : Path) : Except IoError Text := do
  match Utf8.decode? (← files.read path) with
  | some t => pure t
  | none => throw .invalidData

/- Whether a file can be made at a path or is there; its bytes if it is. -/
def openForWriting (files : Files) (path : Path) : Except IoError Bytes :=
  match files.find path with
  | .ok (.file content _) => .ok content
  | .ok (.directory _) => .error .isADirectory
  | .ok .socket => .error .other
  | .error .notFound =>
      if (path.getLast?).isSome then
        match files.find path.dropLast with
        | .ok (.directory _) => .ok []
        | .ok _ => .error .notADirectory
        | .error e => .error e
      else .error .notFound
  | .error e => .error e

def write (files : Files) (path : Path) (content : Bytes) : Except IoError Files :=
  (files.openForWriting path).map fun _ => files.put path (.file content 0)

def append (files : Files) (path : Path) (content : Bytes) : Except IoError Files :=
  (files.openForWriting path).map fun old => files.put path (.file (old ++ content) 0)

def remove (files : Files) (path : Path) : Except IoError Files := do
  match ← files.find path with
  | .directory _ => throw .isADirectory
  | _ => pure (files.erase path)

def makeDirectories (files : Files) (path : Path) (mode : Nat) : Except IoError Files :=
  (ancestors path ++ [path]).foldlM (fun files step =>
    match files.at? step with
    | some (.directory _) => .ok files
    | some _ => .error (if step = path then .alreadyExists else .notADirectory)
    | none => .ok (files.put step (.directory mode))) files

def list (files : Files) (path : Path) : Except IoError (List (Text × FileNode)) := do
  match ← files.find path with
  | .directory _ =>
      pure (files.entries.filterMap fun (p, node) =>
        if p.dropLast = path then p.getLast?.map (·, node) else none)
  | _ => throw .notADirectory

end Files

end ScriptConsole
