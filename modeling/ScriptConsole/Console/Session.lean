import ScriptConsole.Console.Command
import ScriptConsole.Console.Render
import ScriptConsole.Console.Batch
import ScriptConsole.Edit.Reader
import ScriptConsole.History.Basic
import ScriptConsole.Target.Names

/-!
The console: lines are read, recorded, compiled and sent, and their results printed, until the
input ends, a command or a signal says so, the target is lost, or the terminal stays as it is when it is
to be switched over for a line. -/
namespace ScriptConsole

/-- The terminal around the reading of a line: whether it is to be in raw mode then, and how it refuses
that, attempt by attempt. It does not refuse where the list says nothing. -/
structure RawMode where
  asked : Bool := false
  refusals : List (Option Text) := []
  deriving DecidableEq, Repr

def RawMode.enter (raw : RawMode) : Option Text × RawMode :=
  if raw.asked then (raw.refusals.head?.join, { raw with refusals := raw.refusals.tail })
  else (none, raw)

structure Console (σ : Type) where
  switches : Switches := {}
  options : CompileOptions
  language : Language
  -- Colours results; the reader has its own.
  highlighter : Highlighter
  colorize : Bool
  history : History
  files : Files := {}
  channel : Channel σ
  reader : LineReader

inductive Flow
  | goOn | exit
  deriving DecidableEq, Repr

namespace Console

variable {σ : Type}

structure Handled (σ : Type) where
  flow : Except RunError Flow
  printed : Printed
  console : Console σ
  signals : Signals

/- Adds a line to the history; a failure to write it is no error. -/
def record (c : Console σ) (line : Text) : Console σ :=
  let (history, written) := c.history.append line c.files
  { c with history, files := written.toOption.getD c.files }

def coloured (c : Console σ) (code : Text) : Text :=
  if c.colorize then c.highlighter.highlight code false else code

def reply (c : Console σ) : Reply → Printed
  | .noValue => {}
  | .value value =>
      if isThrown value then .toErr (c.coloured value ++ ['\n'])
      else match Rendered.ofValue c.switches.expand c.switches.pretty value with
        | .text t => .toOut (t ++ ['\n'])
        | .code t => .toOut (c.coloured t ++ ['\n'])

def runCommand (c : Console σ) (signals : Signals) (command : Command) : Handled σ :=
  match c.switches.toggle? command with
  | some (switches, name, value) =>
      ⟨.ok .goOn, .toOut (name.toList ++ " == ".toList ++ (toString value).toList ++ ['\n']),
        { c with switches }, signals⟩
  | none =>
      match command with
      | .gc =>
          let (result, channel) := c.channel.collectGarbage
          let printed : Printed := match result with
            | .ok () => .toOut "collecting... done.\n".toList
            | .error e => ⟨"collecting... \n".toList, e.message ++ ['\n']⟩
          ⟨.ok .goOn, printed, { c with channel }, signals⟩
      | .destroy =>
          let (result, channel) := c.channel.destroy
          let printed : Printed := match result with
            | .ok () => {}
            | .error message => .toErr (message ++ ['\n'])
          ⟨.ok .goOn, printed, { c with channel }, signals⟩
      | .exit => ⟨.ok .exit, {}, c, signals⟩
      | .unknown name =>
          ⟨.ok .goOn, .toErr ("unknown command: ?".toList ++ name ++ ['\n']), c, signals⟩
      | .bypass | .debug | .expand | .pretty => ⟨.ok .goOn, {}, c, signals⟩

def runCode (c : Console σ) (signals : Signals) (code : Text) : Handled σ :=
  let echo : Printed :=
    if c.switches.debug then .toOut ("cy= ".toList ++ c.coloured code ++ ['\n']) else {}
  let (reply, channel, signals) := c.channel.send signals code
  let c := { c with channel }
  match reply with
  | .error e => ⟨.error (.lostConnection e), echo, c, signals⟩
  | .ok reply => ⟨.ok .goOn, echo ++ c.reply reply, c, signals⟩

/- Runs one submitted line. Blank lines do nothing; lines with a leading question mark are
commands; what does not compile is reported. -/
def handleLine (c : Console σ) (signals : Signals) (line : Text) : Handled σ :=
  if line.all Text.isBlank then ⟨.ok .goOn, {}, c, signals⟩
  else if line.head? = some '?' then (c.record line).runCommand signals (Command.parse line)
  else if c.switches.bypass then (c.record line).runCode signals line
  else
    match c.language.compile line c.options with
    | .ok code => (c.record line).runCode signals code
    | .error diagnostics =>
        let report := match diagnostics with
          | first :: _ => Report.carets line first
          | [] => []
        ⟨.ok .goOn, .toErr report, c.record line, signals⟩

def completer (evaluator : Evaluator σ) : Completer (Target σ × Signals) where
  complete state context word :=
    let (names, channel, signals) :=
      Names.complete ⟨evaluator, state.1⟩ state.2 context word
    (names, channel.target, signals)

/-- What a run of the console came to: what was written before each question for an event, and
what after the last. -/
structure Ran (σ : Type) where
  result : Except RunError Unit
  console : Console σ
  signals : Signals
  frames : List Text
  out : Text
  err : Text
  rest : List Poll

/- Reads one unit in the mode for it; afterwards the console is idle. -/
def readUnit (c : Console σ) (signals : Signals) (polls : List Poll) :
    ReadResult (Target σ) × Console σ × Signals :=
  let surroundings : Surroundings (Target σ × Signals) :=
    ⟨c.language, c.history.entries, completer c.channel.evaluator, c.switches.bypass⟩
  let result :=
    c.reader.readLine surroundings (c.channel.target, signals.withMode .awaitingInput) polls
  (result,
    { c with reader := result.reader, channel := { c.channel with target := result.state.1 } },
    result.state.2.withMode .idle)

def before (pending : Text) (frames : List Text) (out : Text) : List Text × Text :=
  match frames with
  | first :: rest => ((pending ++ first) :: rest, out)
  | [] => ([], pending ++ out)

/-- Reads and runs lines; `pending` is what has been written since the last question for an event.
A read uses up an event, or the request to abort that was pending, or it is the last one: so
`fuel` bounds the number of reads. Where raw mode is refused the run ends in the mode for input. -/
def runFrom (fuel : Nat) (c : Console σ) (raw : RawMode) (signals : Signals) (pending : Text)
    (polls : List Poll) : Ran σ :=
  match fuel with
  | 0 => ⟨.error .outOfEvents, c, signals, [], pending, [], polls⟩
  | fuel + 1 =>
      match raw.enter with
      | (some reason, _) =>
          ⟨.error (.rawMode reason), c, signals.withMode .awaitingInput, [], pending, [], polls⟩
      | (none, raw) =>
          let (read, c, signals) := c.readUnit signals polls
          let (frames, out) := before pending read.frames read.out
          match read.outcome with
          | .error .outOfEvents => ⟨.error .outOfEvents, c, signals, frames, out, [], read.rest⟩
          | .error .offset => ⟨.error .offset, c, signals, frames, out, [], read.rest⟩
          | .ok .endOfFile | .ok (.terminated _) =>
              ⟨.ok (), c, signals, frames, out, [], read.rest⟩
          | .ok .interrupted =>
              after frames {} (runFrom fuel c raw signals (out ++ ['\n']) read.rest)
          | .ok (.line line) =>
              let handled := c.handleLine signals line
              let out := out ++ handled.printed.out
              match handled.flow with
              | .error e =>
                  ⟨.error e, handled.console, handled.signals, frames, out, handled.printed.err,
                    read.rest⟩
              | .ok .exit =>
                  ⟨.ok (), handled.console, handled.signals, frames, out, handled.printed.err,
                    read.rest⟩
              | .ok .goOn =>
                  after frames handled.printed
                    (runFrom fuel handled.console raw handled.signals out read.rest)
where
  after (frames : List Text) (printed : Printed) (ran : Ran σ) : Ran σ :=
    { ran with frames := frames ++ ran.frames, err := printed.err ++ ran.err }

def run (c : Console σ) (raw : RawMode) (signals : Signals) (polls : List Poll) : Ran σ :=
  runFrom (2 * polls.length + 2) c raw signals [] polls

end Console

end ScriptConsole
