import ScriptConsole.Text.Offset

/-!
The command line: which words are options, which belong to a script, and what is said of a wrong
one. Options may be given until the first argument of the script; everything from there on is the
script's, and so are words before it that look like options but are none. -/
namespace ScriptConsole

inductive Flag
  | compile | minify | strict | pid | remote | verbose | config | logFile | agent | dumpConfig
  | help | version
  deriving DecidableEq, Repr

namespace Flag

structure Spelling where
  flag : Flag
  short : Option Char
  long : String
  value : Option String
  help : String

def spellings : List Spelling := [
  ⟨compile, some 'c', "compile", none, "Print the generated code instead of running it"⟩,
  ⟨minify, some 'n', "minify", none, "Generate minified code"⟩,
  ⟨strict, some 's', "strict", none, "Prefix generated code with \"use strict\""⟩,
  ⟨pid, some 'p', "pid", some "PID|NAME", "Attach to a running process by injection"⟩,
  ⟨remote, some 'r', "remote", some "HOST:PORT|unix:PATH", "Connect to a listening agent"⟩,
  ⟨verbose, some 'v', "verbose", none, "Raise log verbosity (repeatable)"⟩,
  ⟨config, none, "config", some "PATH", "Configuration file"⟩,
  ⟨logFile, none, "log-file", some "LOG_FILE", "Log file path"⟩,
  ⟨agent, none, "agent", some "SOCKET",
    "Run as the agent end of the protocol on a Unix socket"⟩,
  ⟨dumpConfig, none, "dump-config", none, "Print the effective configuration and exit"⟩,
  ⟨help, some 'h', "help", none, "Print help"⟩,
  ⟨version, some 'V', "version", none, "Print version"⟩]

def ofShort? (c : Char) : Option Flag := (spellings.find? (·.short == some c)).map (·.flag)

def ofLong? (name : Text) : Option Flag := (spellings.find? (·.long.toList == name)).map (·.flag)

def spelling? (flag : Flag) : Option Spelling := spellings.find? (·.flag == flag)

def takesValue (flag : Flag) : Bool := (flag.spelling?.bind (·.value)).isSome

def takesPath : Flag → Bool
  | config | logFile | agent => true
  | _ => false

def name (flag : Flag) : String :=
  match flag.spelling? with
  | some ⟨_, _, long, some value, _⟩ => "--" ++ long ++ " <" ++ value ++ ">"
  | some ⟨_, _, long, none, _⟩ => "--" ++ long ++ if flag = verbose then "..." else ""
  | none => ""

end Flag

structure CommandLine where
  options : List (Flag × Option Text) := []
  words : List Text := []
  deriving DecidableEq, Repr

namespace CommandLine

def has (line : CommandLine) (flag : Flag) : Bool := line.options.any (·.1 = flag)

def value? (line : CommandLine) (flag : Flag) : Option Text :=
  (line.options.find? (·.1 = flag)).bind (·.2)

def count (line : CommandLine) (flag : Flag) : Nat := line.options.countP (·.1 = flag)

def script? (line : CommandLine) : Option Text := line.words.head?

inductive Misuse
  | unexpected (word : Text) (used : List Flag) (script : Bool)
  | noValue (flag : Flag)
  | excessValue (flag : Flag) (value : Text) (used : List Flag) (script : Bool)
  | repeated (flag : Flag)
  deriving DecidableEq, Repr

inductive Reading
  | run (line : CommandLine)
  | help
  | version
  | misuse (fault : Misuse)
  deriving DecidableEq, Repr

def usage (used : List Flag) (script : Bool) : String :=
  let words := if script then " <SCRIPT> [ARGS]..." else " [SCRIPT] [ARGS]..."
  "Usage: cyrepl" ++
    (if used.isEmpty && !script then " [OPTIONS]"
      else String.join (used.eraseDups.map fun flag => " " ++ flag.name)) ++ words

def Misuse.message : Misuse → Text
  | .unexpected word used script =>
      "error: unexpected argument '".toList ++ word ++ "' found\n\n  tip: to pass '".toList ++
        word ++ "' as a value, use '-- ".toList ++ word ++ "'\n\n".toList ++
        (usage used script).toList
  | .noValue flag =>
      ("error: a value is required for '" ++ flag.name ++ "' but none was supplied").toList
  | .excessValue flag value used script =>
      "error: unexpected value '".toList ++ value ++
        ("' for '" ++ flag.name ++ "' found; no more were accepted\n\n" ++
          usage used script).toList
  | .repeated flag =>
      ("error: the argument '" ++ flag.name ++ "' cannot be used multiple times\n\n" ++
        usage [] false).toList

def Misuse.report (fault : Misuse) : Text :=
  fault.message ++ "\n\nFor more information, try '--help'.\n".toList

def helpHead (spelling : Flag.Spelling) : String :=
  (match spelling.short with
    | some c => "-" ++ String.singleton c ++ ", "
    | none => "    ") ++ spelling.flag.name

def columns (rows : List (String × String)) : String :=
  let width := (rows.map (·.1.length)).foldl max 0 + 2
  String.join (rows.map fun (head, text) =>
    "  " ++ head ++ String.ofList (List.replicate (width - head.length) ' ') ++ text ++ "\n")

def helpText : String :=
  "Multi-line JavaScript console for local or injected evaluation\n\n" ++ usage [] false ++
    "\n\nArguments:\n" ++
    columns [("[SCRIPT]", "Script to run, or \x60-\x60 for standard input"),
      ("[ARGS]...", "Arguments exposed to the script as \x60system.args\x60")] ++
    "\nOptions:\n" ++ columns (Flag.spellings.map fun spelling => (helpHead spelling, spelling.help))

def versionText : String := "cyrepl 0.1.0\n"

/-- What has been read of a command line. The last option or word read is counted in only when the
next one comes. -/
structure State where
  line : CommandLine := {}
  -- An option whose value is still to come, or has come last.
  pending : Option (Flag × Option Text) := none
  awaiting : Bool := false
  scriptPending : Bool := false
  trailing : Bool := false

namespace State

def used (state : State) : List Flag := (state.line.options.map (·.1)).reverse.eraseDups.reverse

def scriptUsed (state : State) : Bool := !state.line.words.isEmpty && !state.scriptPending

def record (state : State) (flag : Flag) (value : Option Text) : Except Misuse State :=
  if flag != .verbose && state.line.has flag then .error (.repeated flag)
  else if flag.takesPath && value = some [] then .error (.noValue flag)
  else .ok { state with
    line := { state.line with options := state.line.options ++ [(flag, value)] } }

def settle (state : State) : Except Misuse State := do
  let state := { state with scriptPending := false }
  match state.pending with
  | none => return state
  | some (flag, value) =>
      let state := { state with pending := none, awaiting := false }
      if value.isNone then throw (.noValue flag)
      state.record flag value

def settled (state : State) : State := (state.settle.toOption).getD { state with pending := none }

def word (state : State) (text : Text) : Except Misuse State := do
  let first := state.line.words.isEmpty
  let state ← if first || state.pending.isSome then state.settle else pure state
  return { state with
    line := { state.line with words := state.line.words ++ [text] }
    scriptPending := first
    trailing := state.trailing || !first }

end State

inductive Step
  | go (state : State)
  | stop (reading : Reading)

def flagStep (state : State) (flag : Flag) : Except Misuse Step := do
  let state ← state.settle
  match flag with
  | .help => return .stop .help
  | .version => return .stop .version
  | _ => return .go (← state.record flag none)

def valueStep (state : State) (flag : Flag) (attached : Option Text) : Except Misuse Step := do
  let state ← state.settle
  match attached with
  | some value => return .go (← state.record flag (some value))
  | none => return .go { state with pending := some (flag, none), awaiting := true }

def plainStep (state : State) (text : Text) : Except Misuse Step :=
  match state.awaiting, state.pending with
  | true, some (flag, _) =>
      .ok (.go { state with pending := some (flag, some text), awaiting := false })
  | _, _ => (state.word text).map .go

def longStep (state : State) (text body : Text) : Except Misuse Step :=
  let name := body.takeWhile (· != '=')
  let attached := if body.contains '=' then some (body.drop (name.length + 1)) else none
  match Flag.ofLong? name, attached with
  | some flag, attached =>
      if flag.takesValue then valueStep state flag attached
      else
        match attached with
        | none => flagStep state flag
        | some value =>
            .error (.excessValue flag value (state.used ++ [flag]) state.scriptUsed)
  | none, _ =>
      if state.line.words.isEmpty then
        .error (.unexpected ("--".toList ++ name) state.settled.used state.settled.scriptUsed)
      else plainStep state text

/- Letters after a hyphen; the first that takes a value has the rest for it. -/
def shortSteps (state : State) : Text → Except Misuse Step
  | [] => .ok (.go state)
  | c :: rest =>
      match Flag.ofShort? c with
      | none => .error (.unexpected ['-', c] [] false)
      | some flag =>
          if flag.takesValue then
            valueStep state flag (match rest with
              | [] => none
              | '=' :: value => some value
              | value => some value)
          else do
            match ← flagStep state flag with
            | .go state => shortSteps state rest
            | stop => return stop

def step (state : State) (text : Text) : Except Misuse Step :=
  if state.trailing then (state.word text).map .go
  else
    match text with
    | ['-', '-'] => .ok (.go { state with trailing := true })
    | '-' :: '-' :: body => longStep state text body
    | '-' :: c :: rest =>
        if !state.line.words.isEmpty && (c :: rest).any fun c => (Flag.ofShort? c).isNone then
          plainStep state text
        else shortSteps state (c :: rest)
    | _ => plainStep state text

def readFrom (state : State) : List Text → Except Misuse Reading
  | [] => do return .run (← state.settle).line
  | text :: rest => do
      match ← step state text with
      | .go state => readFrom state rest
      | .stop reading => return reading

def read (words : List Text) : Reading :=
  match readFrom {} words with
  | .ok reading => reading
  | .error fault => .misuse fault

end CommandLine

end ScriptConsole
