import ScriptConsole.Proofs.Console.Lines
import ScriptConsole.Proofs.Console.Turns
import ScriptConsole.Proofs.Target.Modes

/-! The modes of the signals over a whole run of the console. Input is awaited in its own mode and the
target is used in the modes for it. Whatever ends the run leaves the console idle, but for a terminal that
refuses raw mode: that leaves it in the mode for input, though nothing is read. -/
namespace ScriptConsole.Console
open LineReader
open Channel (Leads leadsSame)

variable {σ : Type}

/-! ## One line -/

theorem runCommandLeads (c : Console σ) (signals : Signals) (command : Command) :
    Leads c.channel (c.runCommand signals command).console.channel signals
      (c.runCommand signals command).signals := by
  have same := leadsSame c.channel signals
  unfold runCommand
  split
  · exact same
  · cases command with
    | gc => exact Channel.collectLeads c.channel signals
    | destroy => exact Channel.destroyLeads c.channel signals
    | bypass | debug | expand | pretty | exit | unknown name => exact same

theorem runCommandRestores (c : Console σ) (signals : Signals) (command : Command) :
    (c.runCommand signals command).signals = signals := by
  unfold runCommand
  split
  · rfl
  · cases command <;> rfl

theorem handleLineLeads (c : Console σ) (signals : Signals) (line : Text) :
    Leads c.channel (c.handleLine signals line).console.channel signals (c.handleLine signals line).signals ∧
      (c.handleLine signals line).signals.mode = signals.mode := by
  have ran (code : Text) :
      Leads c.channel ((c.record line).runCode signals code).console.channel signals
        ((c.record line).runCode signals code).signals ∧
      ((c.record line).runCode signals code).signals.mode = signals.mode := by
    obtain ⟨channel,later⟩ := runCodeSends (c.record line) signals code
    rw [channel,later]
    exact ⟨Channel.sendLeads c.channel signals code,Channel.sendRestores c.channel signals code⟩
  unfold handleLine
  split
  · exact ⟨leadsSame c.channel signals,rfl⟩
  · split
    · exact ⟨runCommandLeads (c.record line) signals _,by rw [runCommandRestores]⟩
    · split
      · exact ran line
      · split
        · exact ran _
        · exact ⟨leadsSame c.channel signals,rfl⟩

/-! ## One reading -/

/- What holds from question to question: the mode is the one for input, and the target has been used
for completions only. -/
structure Awaits (c : Channel σ) (signals : Signals) (state : Target σ × Signals) : Prop where
  mode : state.2.mode = .awaitingInput
  leads : Leads c { c with target := state.1 } signals state.2

theorem awaitsSurvives (c : Console σ) (signals : Signals) :
    Survives c.surroundings (Awaits c.channel signals) where
  taken _ _ awaits := ⟨awaits.mode,awaits.leads.evaluator,awaits.leads.served,awaits.leads.cancel⟩
  interrupted k now awaits := by
    have mode : now.mode = .awaitingInput := awaits.mode
    have aborts : now.interrupt.1 = { now with abort := true } := by
      simp only [Signals.interrupt,mode,Mode.interruptAction]
    rw [aborts]
    exact ⟨awaits.mode,awaits.leads.evaluator,awaits.leads.served,awaits.leads.cancel⟩
  terminated _ _ _ awaits := ⟨awaits.mode,awaits.leads.evaluator,awaits.leads.served,awaits.leads.cancel⟩
  completed state context word awaits := by
    have leads := awaits.leads.trans
      (Channel.completeLeads ⟨c.channel.evaluator,state.1⟩ state.2 context word)
    exact ⟨(Channel.completeRestores _ state.2 context word).trans awaits.mode,rfl,leads.served,leads.cancel⟩

theorem awaitsStart (t : Turn σ) : Awaits t.console.channel t.signals
    (t.console.channel.target,t.signals.withMode .awaitingInput) :=
  ⟨rfl,rfl,t.console.channel.target.servesSame _,id⟩

theorem momentsAwait (t : Turn σ) : ∀ m ∈ t.moments, m.state.2.mode = .awaitingInput :=
  fun m inside => (t.momentsKeep (awaitsSurvives t.console t.signals) (awaitsStart t) m inside).mode

theorem readingLeads (t : Turn σ) :
    Leads t.console.channel t.afterReading.console.channel t.signals t.afterReading.signals := by
  have awaits := (t.readingKeeps (awaitsSurvives t.console t.signals) (awaitsStart t)).1
  exact ⟨rfl,awaits.leads.served,awaits.leads.cancel⟩

/-! ## One turn, and the run -/

theorem handleLineLoses {c : Console σ} {signals : Signals} {line : Text} {e : RunError}
    (failed : (c.handleLine signals line).flow = .error e) : ∃ lost, e = .lostConnection lost := by
  have ran {c : Console σ} {code : Text} (failed : (c.runCode signals code).flow = .error e) :
      ∃ lost, e = .lostConnection lost := by
    revert failed
    unfold runCode
    rcases c.channel.send signals code with ⟨lost | reply,channel,later⟩
    · exact fun failed => ⟨lost,(Except.error.inj failed).symm⟩
    · exact nofun
  unfold handleLine at failed
  split at failed
  · contradiction
  · split at failed
    · unfold runCommand at failed
      split at failed
      · contradiction
      · split at failed <;> contradiction
    · split at failed
      · exact ran failed
      · split at failed
        · exact ran failed
        · contradiction

theorem turnMode (t : Turn σ) :
    (∃ reason, t.refused? = some reason ∧ t.ended.1 = .error (.rawMode reason) ∧
      t.ended.2.signals.mode = .awaitingInput) ∨
    (∀ reason, t.ended.1 ≠ .error (.rawMode reason)) ∧ t.ended.2.signals.mode = .idle := by
  cases refused : t.refused? with
  | some reason =>
    rw [Turn.endedRefused refused]
    exact .inl ⟨reason,rfl,rfl,rfl⟩
  | none =>
    rw [Turn.endedRead refused]
    refine .inr ?_
    unfold Turn.readEnded
    split
    case h_6 line outcome =>
      refine ⟨fun reason failed => ?_,(handleLineLeads t.afterReading.console t.afterReading.signals line).2⟩
      obtain ⟨lost,same⟩ := handleLineLoses failed
      contradiction
    all_goals exact ⟨nofun,rfl⟩

theorem turnLeads (t : Turn σ) :
    Leads t.console.channel t.ended.2.console.channel t.signals t.ended.2.signals := by
  cases refused : t.refused? with
  | some reason =>
    rw [Turn.endedRefused refused]
    exact ⟨rfl,t.console.channel.target.servesSame _,id⟩
  | none =>
    rw [Turn.endedRead refused]
    have read := readingLeads t
    unfold Turn.readEnded
    split
    case h_6 line outcome =>
      exact read.trans (handleLineLeads t.afterReading.console t.afterReading.signals line).1
    all_goals exact read

theorem turnsLead (t : Turn σ) :
    ∀ t' ∈ t.turns, Leads t.console.channel t'.console.channel t.signals t'.signals := by
  refine Turn.turnsAll ?_ (leadsSame t.console.channel t.signals)
  intro t₁ t₂ step leads
  have one := turnLeads t₁
  rw [Turn.nextEnded step] at one
  exact leads.trans one

theorem turnsRaw (t : Turn σ) :
    ∀ t' ∈ t.turns, t'.raw.asked = t.raw.asked ∧ t'.raw.refusals <:+ t.raw.refusals := by
  have enters (raw : RawMode) : raw.enter.2.asked = raw.asked ∧ raw.enter.2.refusals <:+ raw.refusals := by
    unfold RawMode.enter
    split
    · exact ⟨rfl,List.tail_suffix _⟩
    · exact ⟨rfl,List.suffix_refl _⟩
  refine Turn.turnsAll ?_ ⟨rfl,List.suffix_refl _⟩
  rintro t₁ t₂ step ⟨asked,left⟩
  have later : t₂.raw = t₁.raw.enter.2 := by
    have ends := congrArg (fun ended => ended.2.raw) (Turn.nextRead step).2
    unfold Turn.readEnded at ends
    split at ends <;> exact ends.symm
  obtain ⟨same,shorter⟩ := enters t₁.raw
  rw [later]
  exact ⟨same.trans asked,shorter.trans left⟩

theorem refusedAsked {raw : RawMode} {reason : Text} (refused : raw.enter.1 = some reason) :
    raw.asked = true ∧ some reason ∈ raw.refusals := by
  unfold RawMode.enter at refused
  split at refused
  · rename_i asked
    exact ⟨asked,List.mem_of_head? (Option.join_eq_some_iff.mp refused)⟩
  · contradiction

theorem runCloses (c : Console σ) (raw : RawMode) (signals : Signals) (polls : List Poll) :
    ∃ last ∈ (Turn.mk c raw signals polls).turns, last.next = none ∧
      last.Closes (c.run raw signals polls) := by
  have enough : (Turn.mk c raw signals polls).weight < 2 * polls.length + 2 := by
    unfold Turn.weight
    dsimp only
    split <;> omega
  exact Turn.runTurns enough []

theorem runLeads (c : Console σ) (raw : RawMode) (signals : Signals) (polls : List Poll) :
    Leads c.channel (c.run raw signals polls).console.channel signals (c.run raw signals polls).signals := by
  obtain ⟨last,inside,_,closes⟩ := runCloses c raw signals polls
  rw [closes.console,closes.signals]
  exact (turnsLead _ last inside).trans (turnLeads last)

/- A run in order. Its turns are those of the loop, up to the one it closes with. What the target has
been through is told of any target, and again of the signals an evaluator has noted and of the accesses
of a stream. -/
structure Orderly (c : Console σ) (raw : RawMode) (signals : Signals) (polls : List Poll) : Prop where
  closes : ∃ last ∈ (Turn.mk c raw signals polls).turns, last.next = none ∧
    last.Closes (c.run raw signals polls)
  asked : ∀ t ∈ (Turn.mk c raw signals polls).turns, ∀ m ∈ t.moments, m.state.2.mode = .awaitingInput
  served : c.channel.target.Serves c.channel.evaluator (c.run raw signals polls).console.channel.target
  evaluated : ∀ log : σ → List Signals, c.channel.evaluator.Logs log →
    ∀ state, c.channel.target = .inProcess state → ∃ state' entries,
      (c.run raw signals polls).console.channel.target = .inProcess state' ∧
      log state' = log state ++ entries ∧
      ∀ entry ∈ entries, entry.mode = .evaluating ∧ entry.cancel = false
  accessed : ∀ s, c.channel.target = .remote s → ∃ s' more,
    (c.run raw signals polls).console.channel.target = .remote s' ∧ s'.uses = more ++ s.uses ∧
    ∀ access ∈ more, access = .write .sendingRequest ∨ access = .read .awaitingResponse
  idle : (∀ reason, (c.run raw signals polls).result ≠ .error (.rawMode reason)) →
    (c.run raw signals polls).signals.mode = .idle
  refused : ∀ reason, (c.run raw signals polls).result = .error (.rawMode reason) →
    (c.run raw signals polls).signals.mode = .awaitingInput ∧ raw.asked = true ∧ some reason ∈ raw.refusals
  clear : signals.cancel = false → (c.run raw signals polls).signals.cancel = false

theorem runMode (c : Console σ) (raw : RawMode) (signals : Signals) (polls : List Poll) :
    (∃ reason, (c.run raw signals polls).result = .error (.rawMode reason) ∧
      (c.run raw signals polls).signals.mode = .awaitingInput ∧ raw.asked = true ∧
      some reason ∈ raw.refusals) ∨
    (∀ reason, (c.run raw signals polls).result ≠ .error (.rawMode reason)) ∧
      (c.run raw signals polls).signals.mode = .idle := by
  obtain ⟨last,inside,_,closes⟩ := runCloses c raw signals polls
  rw [closes.result,closes.signals]
  rcases turnMode last with ⟨reason,refused,failed,mode⟩ | ⟨others,mode⟩
  · obtain ⟨asked,left⟩ := turnsRaw _ last inside
    obtain ⟨wanted,listed⟩ := refusedAsked refused
    rw [failed]
    exact .inl ⟨reason,rfl,mode,asked.symm.trans wanted,left.subset listed⟩
  · refine .inr ⟨fun reason failed => ?_,mode⟩
    cases ends : last.ended.1 with
    | ok flow =>
      rw [ends] at failed
      contradiction
    | error e =>
      rw [ends] at failed
      exact others reason (ends.trans (congrArg Except.error (Except.error.inj failed)))

theorem runOrderly (c : Console σ) (raw : RawMode) (signals : Signals) (polls : List Poll) :
    Orderly c raw signals polls := by
  have leads := runLeads c raw signals polls
  have served := leads.served
  have mode := runMode c raw signals polls
  refine ⟨runCloses c raw signals polls,fun t _ => momentsAwait t,served,?_,?_,?_,?_,leads.cancel⟩
  · intro log logs state local_
    rw [local_] at served
    cases final : (c.run raw signals polls).console.channel.target with
    | inProcess state' =>
      rw [final] at served
      obtain ⟨entries,whole,fine⟩ := Evaluator.Calls.logged logs served
      exact ⟨state',entries,rfl,whole,fine⟩
    | remote s => rw [final] at served; exact served.elim
  · intro s remote
    rw [remote] at served
    cases final : (c.run raw signals polls).console.channel.target with
    | inProcess state => rw [final] at served; exact served.elim
    | remote s' =>
      rw [final] at served
      obtain ⟨more,uses,fine⟩ := served
      refine ⟨s',more,rfl,uses,fun access inside => ?_⟩
      have turn := fine access inside
      cases access with
      | write mode => exact .inl (congrArg Access.write turn)
      | read mode => exact .inr (congrArg Access.read turn)
  · intro others
    rcases mode with ⟨reason,failed,_⟩ | ⟨_,idle⟩
    · exact absurd failed (others reason)
    · exact idle
  · intro reason failed
    rcases mode with ⟨reason',failed',awaits,asked,listed⟩ | ⟨others,_⟩
    · cases failed.symm.trans failed'
      exact ⟨awaits,asked,listed⟩
    · exact absurd failed (others reason)

/- A run ends idle unless it was refused raw mode. -/
theorem modesOverRun (c : Console σ) (raw : RawMode) (signals : Signals) (polls : List Poll) :
    Orderly c raw signals polls ∧ (∀ channel : Channel σ, channel.Restores) ∧
      ∀ s : Signals, s.mode = .sendingRequest ∨ s.mode = .awaitingResponse → s.interrupt = (s,.ignore) := by
  refine ⟨runOrderly c raw signals polls,Channel.restores,?_⟩
  rintro s (mode | mode) <;> exact Signals.interruptIgnored (by rw [mode]; rfl)

def noting : Evaluator (List Signals) where
  evaluate noted entry _ := (none,noted ++ [entry],entry.interrupt.1)
  collectGarbage noted := noted
  reset noted := (.ok (),noted)

def interruptedConsole : Console (List Signals) where
  switches := { bypass := true }
  options := {}
  language := Language.constant []
  highlighter := .plain
  colorize := false
  history := ⟨none,[],.incremental,10,0,false⟩
  channel := ⟨noting,.inProcess []⟩
  reader := { prompt := ['>',' '], highlighter := .plain, width := 80 }

def interruptedPolls : List Poll :=
  [.event (.key { code := .char 'x' } .press),.event (.key { code := .tab } .press),
    .event (.key { code := .enter } .press),.event (.key { code := .char 'y' } .press),.signal 2,
    .event (.key { code := .char 'z' } .press),.event (.key { code := .enter } .press)]

def noted : Target (List Signals) → List Signals
  | .inProcess entries => entries
  | .remote _ => []

theorem notingLogs : noting.Logs id := ⟨fun _ _ _ => rfl,fun _ => rfl,fun _ => rfl⟩

theorem modesOverInterruptedRun :
    ∃ entries, (interruptedConsole.run { asked := true } {} interruptedPolls).console.channel.target =
        .inProcess entries ∧
      entries.length = 3 ∧ (∀ entry ∈ entries, entry.mode = .evaluating ∧ entry.cancel = false) ∧
      (interruptedConsole.run { asked := true } {} interruptedPolls).signals.mode = .idle ∧
      (interruptedConsole.run { asked := true } {} interruptedPolls).signals.cancel = false := by
  have evaluations : (noted (interruptedConsole.run { asked := true } {}
      interruptedPolls).console.channel.target).length = 3 := by
    decide +kernel
  have orderly := (modesOverRun interruptedConsole { asked := true } {} interruptedPolls).1
  obtain ⟨state,entries,final,whole,fine⟩ := orderly.evaluated id notingLogs [] rfl
  rw [id,id,List.nil_append] at whole
  rw [final,whole] at evaluations
  exact ⟨entries,by rw [final,whole],evaluations,fine,
    orderly.idle fun reason failed => absurd (orderly.refused reason failed).2.2 List.not_mem_nil,
    orderly.clear rfl⟩

/- No terminal to switch over: the run fails in the mode in which it would have read. -/
theorem refusedRunAwaits : ¬ ∀ (c : Console (List Signals)) (raw : RawMode) (signals : Signals)
    (polls : List Poll), (c.run raw signals polls).signals.mode = .idle := fun always =>
  absurd (always interruptedConsole ⟨true,[some "No such device or address (os error 6)".toList]⟩ {} [])
    (by decide)

end ScriptConsole.Console
