import ScriptConsole.History.Basic
import ScriptConsole.Json.Cursor
import ScriptConsole.Text.Class

/-!
The settings of the console: what they are without a file, how a file spells them, and which are
refused. A file may leave out everything; what it names besides the fields known here is ignored. -/
namespace ScriptConsole

structure HistorySettings where
  file : Option Text := none
  maxEntries : Nat := 1000
  persistence : Persistence := .incremental
  deriving DecidableEq, Repr

structure InjectSettings where
  command : Text := "cyrepl-inject".toList
  library : Option Text := none
  socketDirectory : Option Text := none
  deriving DecidableEq, Repr

structure Settings where
  prompt : Text := "cy# ".toList
  highlight : Bool := true
  history : HistorySettings := {}
  inject : InjectSettings := {}
  deriving DecidableEq, Repr

namespace Settings

inductive Refusal
  | promptNewline | noEntries | blankCommand
  deriving DecidableEq, Repr

inductive Failure
  | io (e : IoError)
  | parse (f : Json.Fault)
  | refused (r : Refusal)
  deriving DecidableEq, Repr

def Refusal.message : Refusal → Text
  | promptNewline => "prompt cannot contain a newline".toList
  | noEntries => "history.max_entries must be greater than 0".toList
  | blankCommand => "inject.command cannot be empty".toList

def Failure.message : Failure → Text
  | io e => "IO error: ".toList ++ e.systemMessage.toList
  | parse f => "Parse error: ".toList ++ f.message
  | refused r => "Validation error: ".toList ++ r.message

def refusal? (s : Settings) : Option Refusal :=
  if s.prompt.contains '\n' then some .promptNewline
  else if s.history.maxEntries = 0 then some .noEntries
  else if s.inject.command.all Text.isBlank then some .blankCommand
  else none

def persistenceNames : List (Text × Persistence) :=
  [("incremental".toList, .incremental), ("on_exit".toList, .onExit)]

open Json.Cursor in
def readHistory : Json.Reading HistorySettings :=
  record "HistoryConfig".toList {}
    [("file".toList, fun h c => do
        let (file, c) ← optional (text "path string".toList) c
        .ok ({ h with file }, c)),
     ("max_entries".toList, fun h c => do
        let (maxEntries, c) ← word64 c
        .ok ({ h with maxEntries }, c)),
     ("persistence".toList, fun h c => do
        let (persistence, c) ← choice "`incremental` or `on_exit`".toList persistenceNames c
        .ok ({ h with persistence }, c))]

open Json.Cursor in
def readInject : Json.Reading InjectSettings :=
  record "InjectConfig".toList {}
    [("command".toList, fun i c => do
        let (command, c) ← text "a string".toList c
        .ok ({ i with command }, c)),
     ("library".toList, fun i c => do
        let (library, c) ← optional (text "path string".toList) c
        .ok ({ i with library }, c)),
     ("socket_dir".toList, fun i c => do
        let (socketDirectory, c) ← optional (text "path string".toList) c
        .ok ({ i with socketDirectory }, c))]

open Json.Cursor in
def read : Json.Reading Settings :=
  record "Config".toList {}
    [("prompt".toList, fun s c => do
        let (prompt, c) ← text "a string".toList c
        .ok ({ s with prompt }, c)),
     ("highlight".toList, fun s c => do
        let (highlight, c) ← bool c
        .ok ({ s with highlight }, c)),
     ("history".toList, fun s c => do
        let (history, c) ← readHistory c
        .ok ({ s with history }, c)),
     ("inject".toList, fun s c => do
        let (inject, c) ← readInject c
        .ok ({ s with inject }, c))]

def parse (content : Text) : Except Failure Settings :=
  match Json.readAll read content with
  | .error f => .error (.parse f)
  | .ok s =>
      match s.refusal? with
      | some r => .error (.refused r)
      | none => .ok s

def ofFile (files : Files) (path : Path) : Except Failure Settings :=
  match files.readText path with
  | .error e => .error (.io e)
  | .ok content => parse content

/- The settings of the file that was asked for; without one, those of the usual file, or the
defaults if it cannot be used. -/
def load (files : Files) (asked : Option Path) (usual : Path) : Except Failure Settings :=
  match asked with
  | some path => ofFile files path
  | none =>
      match ofFile files usual with
      | .ok s => .ok s
      | .error _ => .ok {}

def optionalText : Option Text → Json.Value
  | some t => .string t
  | none => .null

def persistenceName (p : Persistence) : Text :=
  ((persistenceNames.find? (·.2 = p)).map (·.1)).getD []

def toJson (s : Settings) : Json.Value :=
  .object
    [("prompt".toList, .string s.prompt),
     ("highlight".toList, .bool s.highlight),
     ("history".toList, .object
       [("file".toList, optionalText s.history.file),
        ("max_entries".toList, .integer s.history.maxEntries),
        ("persistence".toList, .string (persistenceName s.history.persistence))]),
     ("inject".toList, .object
       [("command".toList, .string s.inject.command),
        ("library".toList, optionalText s.inject.library),
        ("socket_dir".toList, optionalText s.inject.socketDirectory)])]

end Settings

end ScriptConsole
