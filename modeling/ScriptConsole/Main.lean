import ScriptConsole.Console.Program
import ScriptConsole.Engine.Answer
import ScriptConsole.Script.Minify

/-!
The command line. What the program may look at is read beforehand, the run itself is a function of
that, and what it leaves is written afterwards. -/
namespace ScriptConsole.CommandLine

def systemPath (path : Path) : String := "/" ++ "/".intercalate (path.map String.ofList)

def bytesOf (b : ByteArray) : Bytes := b.toList

/- Adds what stands at a path, `now` being the time in seconds that ages are counted to. -/
def lookAt (now : Int) (files : Files) (path : Path) : IO Files := do
  if (files.at? path).isSome then return files
  let place := (← IO.currentDir) / systemPath path
  if ← place.isDir then return files.put path (.directory 0o755)
  else if ← place.pathExists then
    let days := match ← place.metadata.toBaseIO with
      | .ok data => (now - data.modified.sec) / 86400
      | .error _ => 0
    match ← (IO.FS.readBinFile place).toBaseIO with
    | .ok content => return files.put path (.file (bytesOf content) days.toNat)
    | .error _ => return files.put path .socket
  else return files

def lookAlong (now : Int) (files : Files) (path : Path) : IO Files :=
  (List.range (path.length + 1)).foldlM (fun files n => lookAt now files (path.take n)) files

def lookInside (now : Int) (files : Files) (path : Path) : IO Files := do
  let place := (← IO.currentDir) / systemPath path
  if ← place.isDir then
    (← place.readDir).foldlM (fun files entry =>
      lookAt now files (path ++ [entry.fileName.toList])) files
  else return files

def named (words : List Text) : List Text :=
  words.flatMap fun word =>
    let value := ((word.dropWhile (· != '=')).drop 1)
    [word, value, ((Text.dropLead? word "unix:".toList).getD []),
      ((Text.dropLead? value "unix:".toList).getD [])].filter (!·.isEmpty)

def runningProcesses : IO (List Nat) := do
  let place := (← IO.currentDir) / "/proc"
  if ← place.isDir then
    return (← place.readDir).toList.filterMap fun entry =>
      Text.unsigned? Processes.limit entry.fileName.toList
  else return []

def environmentVariables : IO (List (Text × Text)) := do
  ["HOME", "XDG_CONFIG_HOME", "XDG_STATE_HOME", "TMPDIR"].filterMapM fun name => do
    return (← IO.getEnv name).map fun value => (name.toList, value.toList)

def ownNumber : IO Text := do
  match ← (IO.FS.readFile "/proc/self/stat").toBaseIO with
  | .ok s => return s.toList.takeWhile (· != ' ')
  | .error _ => return "0".toList

def readsInput (words : List Text) : Bool :=
  match read words with
  | .run line => (line.script?.filter (· ≠ ['-'])).isNone
  | _ => false

def look (words : List Text) : IO World := do
  let directory := Path.resolve [] (← IO.currentDir).toString.toList
  let running ← runningProcesses
  let now := match ← ((← IO.currentDir) / "/proc/self").metadata.toBaseIO with
    | .ok data => data.modified.sec
    | .error _ => 0
  let input ← if readsInput words then bytesOf <$> IO.FS.readBinFile "/dev/stdin" else pure []
  let world : World :=
    { directory := directory, environment := ← environmentVariables, input := input,
      pid := ← ownNumber, running := running }
  let logs := world.logDirectory.1
  let paths := named words ++ [logs, world.temporary, world.places.settingsFile]
  let files ← paths.foldlM (fun files path => lookAlong now files (world.resolve path)) {}
  let files ← lookInside now files (world.resolve logs)
  let processes := (running.map fun n =>
    ["proc".toList, Text.ofNat n, "comm".toList])
  let files ← processes.foldlM (lookAlong now) files
  return { world with files := files }

def leave (before after : Files) : IO Unit := do
  for (path, node) in after.entries do
    if before.at? path != some node then
      let place := (← IO.currentDir) / systemPath path
      match node with
      | .directory _ => IO.FS.createDirAll place
      | .file content _ => IO.FS.writeBinFile place ⟨content.toArray⟩
      | .socket => pure ()
  for (path, _) in before.entries do
    if (after.at? path).isNone then
      IO.FS.removeFile ((← IO.currentDir) / systemPath path)

end ScriptConsole.CommandLine

def main (arguments : List String) : IO UInt32 := do
  let words := arguments.map String.toList
  let world ← ScriptConsole.CommandLine.look words
  let ended := ScriptConsole.Program.run ScriptConsole.Script.Tongue.javaScript.get.language
    ⟨ScriptConsole.Engine.evaluator, ScriptConsole.Engine.start⟩ world words
  ScriptConsole.CommandLine.leave world.files ended.files
  (← IO.getStdout).putStr (String.ofList ended.printed.out)
  (← IO.getStderr).putStr (String.ofList ended.printed.err)
  return ended.code.toUInt32
