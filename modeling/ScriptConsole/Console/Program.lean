import ScriptConsole.Console.Batch
import ScriptConsole.Console.CommandLine
import ScriptConsole.Settings.Places
import ScriptConsole.System.Log
import ScriptConsole.System.Programs
import ScriptConsole.Target.Attach
import ScriptConsole.Target.Names

/-!
The program run without a terminal: the command line is read and checked, a log file is made, the
settings are loaded, and a script is printed or run. The first thing that fails ends the run. -/
namespace ScriptConsole

structure World where
  files : Files := {}
  directory : Path := []
  environment : List (Text × Text) := []
  input : Bytes := []
  pid : Text := []
  running : List Nat := []

structure Ended where
  code : Nat
  printed : Printed := {}
  files : Files

namespace World

def lookup? (world : World) (name : String) : Option Text :=
  (world.environment.find? (·.1 = name.toList)).map (·.2)

def absolute? (world : World) (name : String) : Option Text :=
  (world.lookup? name).filter (·.head? = some '/')

def home (world : World) : Text :=
  ((world.lookup? "HOME").filter (!·.isEmpty)).getD "/root".toList

def temporary (world : World) : Text := (world.lookup? "TMPDIR").getD "/tmp".toList

def resolve (world : World) (written : Text) : Path := Path.resolve world.directory written

def below (start : Text) (names : List String) : Text :=
  names.foldl (fun path name => Path.join path name.toList) start

def places (world : World) : Places where
  configuration := below ((world.absolute? "XDG_CONFIG_HOME").getD
    (below world.home [".config"])) ["cyrepl"]
  home := world.home

/- The directory for logs, which is made if it is missing; in the directory for temporary files if
it cannot be. -/
def logDirectory (world : World) : Text × World :=
  let usual := below ((world.absolute? "XDG_STATE_HOME").getD
    (below world.home [".local", "state"])) ["cyrepl", "logs"]
  match world.files.makeDirectories (world.resolve usual) 0o755 with
  | .ok files => (usual, { world with files := files })
  | .error _ => (below world.temporary ["cyrepl-logs"], world)

def readText (world : World) (written : Text) : Except IoError Text :=
  if written.isEmpty then .error .notFound
  else
    match world.files.find (world.resolve written) with
    | .ok (.file ..) =>
        if written.getLast? = some '/' then .error .notADirectory
        else world.files.readText (world.resolve written)
    | _ => world.files.readText (world.resolve written)

end World

namespace Program

def complaint? (line : CommandLine) : Option Text :=
  let targets := [Flag.compile, .pid, .remote].filter line.has
  if targets.length > 1 then some "only one of -[cpr] may be used at a time".toList
  else if line.has .pid && line.words.length > 1 then some "-p cannot set argv".toList
  else
    match (line.value? .remote).map Address.parse with
    | some (.error e) => some e.message
    | _ => none

def optionsOf (line : CommandLine) : CompileOptions := ⟨line.has .minify, line.has .strict⟩

/- Makes the log file and removes stale ones; says so if it is not where it should be. -/
def startLog (world : World) (line : CommandLine) : Text × World :=
  let (preferred, world) : Text × World := match line.value? .logFile with
    | some path => (path, world)
    | none =>
        let (directory, world) := world.logDirectory
        (Path.join directory (Log.fileName world.pid), world)
  let fallback := Path.join world.temporary (Log.fileName world.pid)
  let complain (rest : Text) : Text :=
    "cyrepl: cannot write log file ".toList ++ preferred ++ rest ++ ['\n']
  let (said, world) : Text × World :=
    match Log.create world.files world.resolve preferred fallback with
    | some (used, files) =>
        (if used = preferred then [] else complain (", logging to ".toList ++ used),
          { world with files := files })
    | none => (complain ", logging disabled".toList, world)
  let (directory, world) := world.logDirectory
  (said, { world with
    files := Log.cleanUp world.files (world.resolve directory) world.running })

def readScript (world : World) (line : CommandLine) : Except Text Text :=
  match line.script?.filter (· ≠ ['-']) with
  | some path =>
      match world.readText path with
      | .ok source => .ok source
      | .error e => .error
          ("Failed to read ".toList ++ path ++ ": ".toList ++ e.systemMessage.toList)
  | none =>
      match Utf8.decode? world.input with
      | some source => .ok source
      | none => .error
          ("Failed to read standard input: ".toList ++ IoError.invalidData.systemMessage.toList)

/- Attaches to the process that was named. No agent comes of it here: where the injector does its
work, nobody connects back. -/
def attach (world : World) (settings : Settings) (spec : Text) : Text × Files :=
  match Attach.resolve world.files ["proc".toList] spec with
  | .error fault => (fault.chain, world.files)
  | .ok pid =>
      match settings.inject.library with
      | none => (Attach.Failure.noLibrary.chain, world.files)
      | some library =>
          let path := Attach.socketPath
            (settings.inject.socketDirectory.getD world.temporary) world.pid
          let inject (_ : Attach.Request) : Except Attach.Failure Unit :=
            match (Programs.start settings.inject.command).complaint? with
            | some reason => .error (.injector settings.inject.command reason)
            | none => .ok ()
          let (_, result, files) := Attach.run world.files path (world.resolve path) pid library
            inject
          let fault := match result with
            | .error fault => fault
            | .ok () => .accept .interrupted
          ("Failed to attach to process ".toList ++ Text.ofNat pid ++ ": ".toList ++ fault.chain,
            files)

structure Runner (σ : Type) where
  evaluator : Evaluator σ
  start : List Text → σ

def runScript {σ : Type} (language : Language) (runner : Runner σ) (world : World)
    (line : CommandLine) (settings : Settings) : Ended :=
  let fail (message : Text) (files : Files) : Ended :=
    ⟨1, .toErr ("Error: ".toList ++ message ++ ['\n']), files⟩
  let finish (done : Batch.Done σ) : Ended :=
    match done.code with
    | .ok code => ⟨code, done.printed, world.files⟩
    | .error e =>
        let failed := fail e.message world.files
        { failed with printed := done.printed ++ failed.printed }
  match readScript world line with
  | .error message => fail message world.files
  | .ok source =>
      if line.has .compile then finish (Batch.run source language (optionsOf line) .print)
      else
        match line.value? .pid, (line.value? .remote).map Address.parse with
        | some spec, _ =>
            let (message, files) := attach world settings spec
            fail message files
        | none, some (.ok address) =>
            fail (address.connectFailure world.files world.resolve).chain world.files
        | none, some (.error e) => fail e.chain world.files
        | none, none =>
            finish (Batch.run source language (optionsOf line)
              (.run ⟨runner.evaluator, .inProcess (runner.start line.words)⟩ {}))

def perform {σ : Type} (language : Language) (runner : Runner σ) (world : World)
    (line : CommandLine) : Ended :=
  let fail (message : Text) : Ended :=
    ⟨1, .toErr ("Error: ".toList ++ message ++ ['\n']), world.files⟩
  let asked := (line.value? .config).map world.resolve
  match Settings.load world.files asked (world.resolve world.places.settingsFile) with
  | .error fault => fail ("Failed to load configuration: ".toList ++ fault.message)
  | .ok settings =>
      if line.has .dumpConfig then
        ⟨0, .toOut (Json.pretty 0 settings.toJson ++ ['\n']), world.files⟩
      else
        match line.value? .agent with
        | some path =>
            fail ("Failed to connect to ".toList ++ path ++ ": ".toList ++
              ((Address.socket path).refusal world.files world.resolve).systemMessage.toList)
        | none => runScript language runner world line settings

def run {σ : Type} (language : Language) (runner : Runner σ) (world : World)
    (words : List Text) : Ended :=
  match CommandLine.read words with
  | .help => ⟨0, .toOut CommandLine.helpText.toList, world.files⟩
  | .version => ⟨0, .toOut CommandLine.versionText.toList, world.files⟩
  | .misuse fault => ⟨1, .toErr fault.report, world.files⟩
  | .run line =>
      match complaint? line with
      | some message => ⟨1, .toErr (message ++ ['\n']), world.files⟩
      | none =>
          let (said, world) := startLog world line
          let outcome := perform language runner world line
          { outcome with printed := .toErr said ++ outcome.printed }

end Program

end ScriptConsole
