import ScriptConsole.Console.Session
import ScriptConsole.Proofs.Console.Showing
import ScriptConsole.Proofs.History.Limits
import ScriptConsole.Proofs.Text.Offset

/-! The lines given to a console one after the other: what is recorded of them, which switches they
flip, what the target is asked to do and where its replies are written. Each line comes with the answers
its language gives then, so that a language need not give the same ones twice. Both outputs take what is
written to them. -/
namespace ScriptConsole

/-! ## Commands by name -/

namespace Command

def nameOf (line : Text) : Text := Text.trim ((Text.trim line).dropWhile (· == '?'))

def isNamed (word : String) (line : Text) : Bool := line.head? = some '?' && nameOf line == word.toList

theorem namedOnce : ∀ a ∈ named, ∀ b ∈ named, (a.1.toList = b.1.toList ↔ a.2 = b.2) := by decide

theorem namedKnown {word : String} {command : Command} (entry : (word,command) ∈ named) (name : Text) :
    command ≠ .unknown name := by
  rintro rfl
  simp [named] at entry

theorem parseNamed {line : Text} {word : String} {command : Command} (entry : (word,command) ∈ named) :
    parse line = command ↔ nameOf line = word.toList := by
  unfold parse
  rw [← nameOf]
  dsimp only
  split
  · rename_i other found
    have inside := List.mem_of_find?_eq_some found
    have name := List.find?_some found
    rw [← beq_iff_eq.mp name]
    exact (namedOnce _ inside _ entry).symm
  · rename_i found
    constructor
    · intro same
      exact absurd same.symm (namedKnown entry _)
    · intro same
      exact absurd (beq_iff_eq.mpr same.symm) (List.find?_eq_none.mp found _ entry)

theorem parseIs {line : Text} (marked : line.head? = some '?') {word : String} {command : Command}
    (entry : (word,command) ∈ named) : isNamed word line = decide (parse line = command) := by
  rw [Bool.eq_iff_iff]
  simp only [isNamed,marked,decide_true,Bool.true_and,beq_iff_eq,decide_eq_true_eq,parseNamed entry]

theorem unmarkedNamed {line : Text} (plain : line.head? ≠ some '?') (word : String) :
    isNamed word line = false := by
  simp only [isNamed,plain,decide_false,Bool.false_and]

end Command

namespace Console
open Command (isNamed)
variable {σ : Type}

/-! ## What the lines say -/

structure Given where
  language : Language
  line : Text

def Given.blank (g : Given) : Bool := g.line.all Text.isBlank

def recordable (lines : List Given) : List Text := (lines.filter (!·.blank)).map Given.line

def flipped (word : String) (start : Bool) (lines : List Given) : Bool :=
  lines.foldl (fun now g => if isNamed word g.line then !now else now) start

def switchesAfter (s : Switches) (lines : List Given) : Switches :=
  ⟨flipped "bypass" s.bypass lines,flipped "debug" s.debug lines,flipped "expand" s.expand lines,
    flipped "pretty" s.pretty lines⟩

inductive Use
  | send (code : Text)
  | collect
  | destroy
  deriving DecidableEq, Repr

def Use.code? : Use → Option Text
  | send code => some code
  | collect | destroy => none

def Use.perform (now : Channel σ × Signals) : Use → Channel σ × Signals
  | send code => (now.1.send now.2 code).2
  | collect => (now.1.collectGarbage.2,now.2)
  | destroy => (now.1.destroy.2,now.2)

def use? (options : CompileOptions) (bypass : Bool) (g : Given) : Option Use :=
  if g.blank then none
  else if g.line.head? = some '?' then
    if isNamed "gc" g.line then some .collect
    else if isNamed "destroy" g.line then some .destroy
    else none
  else if bypass then some (.send g.line)
  else
    match g.language.compile g.line options with
    | .ok code => some (.send code)
    | .error _ => none

def uses (options : CompileOptions) (bypass : Bool) : List Given → List Use
  | [] => []
  | g :: rest => (use? options bypass g).toList ++ uses options (flipped "bypass" bypass [g]) rest

def sends (options : CompileOptions) (bypass : Bool) (lines : List Given) : List Text :=
  (uses options bypass lines).filterMap Use.code?

theorem flippedSnoc (word : String) (start : Bool) (lines : List Given) (g : Given) :
    flipped word start (lines ++ [g]) = flipped word (flipped word start lines) [g] := List.foldl_append

theorem switchesSnoc (s : Switches) (lines : List Given) (g : Given) :
    switchesAfter s (lines ++ [g]) = switchesAfter (switchesAfter s lines) [g] := by
  simp only [switchesAfter,flippedSnoc]

theorem usesSnoc (options : CompileOptions) (bypass : Bool) (lines : List Given) (g : Given) :
    uses options bypass (lines ++ [g]) =
      uses options bypass lines ++ (use? options (flipped "bypass" bypass lines) g).toList := by
  induction lines generalizing bypass with
  | nil => simp [uses,flipped]
  | cons first rest ih => simp only [List.cons_append,uses,ih,List.append_assoc]; rfl

theorem recordableSnoc (lines : List Given) (g : Given) :
    recordable (lines ++ [g]) = recordable lines ++ if g.blank then [] else [g.line] := by
  cases blank : g.blank <;> simp [recordable,List.filter_append,blank]

/-! ## One line -/

def give (c : Console σ) (signals : Signals) (g : Given) : Handled σ :=
  { c with language := g.language }.handleLine signals g.line

def recording (c : Console σ) (g : Given) : Console σ := { c with language := g.language }.record g.line

theorem giveBlank {c : Console σ} {g : Given} (blank : g.blank = true) (signals : Signals) :
    c.give signals g = ⟨.ok .goOn,{},{ c with language := g.language },signals⟩ := by
  rw [Given.blank] at blank
  simp only [give,handleLine,blank,if_true]

theorem giveCommand {c : Console σ} {g : Given} (shown : g.blank = false) (marked : g.line.head? = some '?')
    (signals : Signals) : c.give signals g = (c.recording g).runCommand signals (Command.parse g.line) := by
  rw [Given.blank] at shown
  simp only [give,handleLine,shown,marked,if_true,Bool.false_eq_true,if_false]
  rfl

theorem giveCode {c : Console σ} {g : Given} {code : Text}
    (sent : use? c.options c.switches.bypass g = some (.send code)) (signals : Signals) :
    c.give signals g = (c.recording g).runCode signals code := by
  unfold use? at sent
  split at sent
  · contradiction
  · rename_i shown
    split at sent
    · split at sent
      · cases sent
      · split at sent <;> cases sent
    · rename_i plain
      rw [Given.blank] at shown
      split at sent
      · rename_i through
        cases sent
        simp only [give,handleLine,shown,plain,through,if_true,if_false]
        rfl
      · rename_i through
        split at sent
        · rename_i compiled
          cases sent
          simp only [give,handleLine,shown,plain,through,if_false,compiled]
          rfl
        · cases sent

theorem giveRejected {c : Console σ} {g : Given} (shown : g.blank = false) (plain : g.line.head? ≠ some '?')
    (unused : use? c.options c.switches.bypass g = none) (signals : Signals) :
    (c.give signals g).console = c.recording g ∧ (c.give signals g).signals = signals := by
  rw [use?,if_neg (by simp [shown]),if_neg plain] at unused
  split at unused
  · cases unused
  · rename_i through
    split at unused
    · cases unused
    · rename_i failed
      rw [Given.blank] at shown
      simp only [give,handleLine,shown,plain,through,Bool.false_eq_true,if_false,failed]
      exact ⟨rfl,trivial⟩

theorem useCases (c : Console σ) (g : Given) :
    g.blank = true ∨ (g.blank = false ∧ g.line.head? = some '?') ∨
      (g.blank = false ∧ g.line.head? ≠ some '?' ∧
        ((∃ code, use? c.options c.switches.bypass g = some (.send code)) ∨
          use? c.options c.switches.bypass g = none)) := by
  cases shown : g.blank with
  | true => exact .inl rfl
  | false =>
    by_cases marked : g.line.head? = some '?'
    · exact .inr (.inl ⟨rfl,marked⟩)
    · refine .inr (.inr ⟨rfl,marked,?_⟩)
      rw [use?,if_neg (by simp [shown]),if_neg marked]
      split
      · exact .inl ⟨_,rfl⟩
      · split
        · exact .inl ⟨_,rfl⟩
        · exact .inr rfl

theorem toggleFlips (s : Switches) {g : Given} (marked : g.line.head? = some '?') :
    ((s.toggle? (Command.parse g.line)).map (·.1)).getD s = switchesAfter s [g] := by
  simp only [switchesAfter,flipped,List.foldl_cons,List.foldl_nil,
    Command.parseIs marked (show ("bypass",Command.bypass) ∈ Command.named by decide),
    Command.parseIs marked (show ("debug",Command.debug) ∈ Command.named by decide),
    Command.parseIs marked (show ("expand",Command.expand) ∈ Command.named by decide),
    Command.parseIs marked (show ("pretty",Command.pretty) ∈ Command.named by decide)]
  cases Command.parse g.line <;> simp [Switches.toggle?]

theorem runCommandSwitches (c : Console σ) (signals : Signals) (command : Command) :
    (c.runCommand signals command).console.switches =
      ((c.switches.toggle? command).map (·.1)).getD c.switches := by
  unfold runCommand
  cases flips : c.switches.toggle? command with
  | some found => rfl
  | none => cases command <;> rfl

theorem runCommandKeeps (c : Console σ) (signals : Signals) (command : Command) :
    (c.runCommand signals command).console.history = c.history ∧
      (c.runCommand signals command).console.options = c.options := by
  unfold runCommand
  cases flips : c.switches.toggle? command with
  | some found => exact ⟨rfl,rfl⟩
  | none => cases command <;> exact ⟨rfl,rfl⟩

theorem runCommandUses (c : Console σ) (signals : Signals) {g : Given} (shown : g.blank = false)
    (marked : g.line.head? = some '?') :
    ((c.runCommand signals (Command.parse g.line)).console.channel,
        (c.runCommand signals (Command.parse g.line)).signals) =
      (use? c.options c.switches.bypass g).toList.foldl Use.perform (c.channel,signals) := by
  rw [use?,if_neg (by simp [shown]),if_pos marked,
    Command.parseIs marked (show ("gc",Command.gc) ∈ Command.named by decide),
    Command.parseIs marked (show ("destroy",Command.destroy) ∈ Command.named by decide)]
  cases Command.parse g.line <;> rfl

theorem runCodeSends (c : Console σ) (signals : Signals) (code : Text) :
    (c.runCode signals code).console.channel = (c.channel.send signals code).2.1 ∧
      (c.runCode signals code).signals = (c.channel.send signals code).2.2 := by
  unfold runCode
  rcases c.channel.send signals code with ⟨_ | _,channel,later⟩ <;> exact ⟨rfl,rfl⟩

theorem runCodeKeeps (c : Console σ) (signals : Signals) (code : Text) :
    (c.runCode signals code).console.switches = c.switches ∧
      (c.runCode signals code).console.history = c.history ∧
      (c.runCode signals code).console.options = c.options := by
  unfold runCode
  rcases c.channel.send signals code with ⟨_ | _,channel,later⟩ <;> exact ⟨rfl,rfl,rfl⟩

structure Treats (c : Console σ) (signals : Signals) (g : Given) (h : Handled σ) : Prop where
  options : h.console.options = c.options
  limit : h.console.history.maxEntries = c.history.maxEntries
  entries : h.console.history.entries =
    if g.blank then c.history.entries else History.lastN c.history.maxEntries (c.history.entries ++ [g.line])
  switches : h.console.switches = switchesAfter c.switches [g]
  channel : (h.console.channel,h.signals) =
    (use? c.options c.switches.bypass g).toList.foldl Use.perform (c.channel,signals)

theorem recordingEntries (c : Console σ) {g : Given} (shown : g.blank = false) :
    (c.recording g).history.maxEntries = c.history.maxEntries ∧
      (c.recording g).history.entries = History.lastN c.history.maxEntries (c.history.entries ++ [g.line]) := by
  have some : g.line ≠ [] := by
    intro none
    rw [Given.blank,none] at shown
    cases shown
  obtain ⟨entries,limit⟩ := History.appendEntries (h := c.history) some c.files
  exact ⟨limit,entries⟩

theorem flippedPlain {g : Given} (plain : g.line.head? ≠ some '?') (word : String) (start : Bool) :
    flipped word start [g] = start := by
  rw [flipped,List.foldl_cons,Command.unmarkedNamed plain]
  rfl

theorem switchesPlain (s : Switches) {g : Given} (plain : g.line.head? ≠ some '?') :
    switchesAfter s [g] = s := by
  simp only [switchesAfter,flippedPlain plain]

theorem blankPlain {g : Given} (blank : g.blank = true) : g.line.head? ≠ some '?' := by
  intro marked
  obtain ⟨rest,line⟩ := List.head?_eq_some_iff.mp marked
  rw [Given.blank,line,List.all_cons,Bool.and_eq_true] at blank
  exact absurd blank.1 (by decide)

theorem giveTreats (c : Console σ) (signals : Signals) (g : Given) : c.Treats signals g (c.give signals g) := by
  rcases useCases c g with blank | ⟨shown,marked⟩ | ⟨shown,plain,⟨code,sent⟩ | unused⟩
  · have unused : use? c.options c.switches.bypass g = none := by rw [use?,if_pos blank]
    rw [giveBlank blank]
    exact ⟨rfl,rfl,(if_pos blank).symm,(switchesPlain c.switches (blankPlain blank)).symm,by rw [unused]; rfl⟩
  · obtain ⟨limit,entries⟩ := c.recordingEntries shown
    obtain ⟨history,options⟩ := runCommandKeeps (c.recording g) signals (Command.parse g.line)
    rw [giveCommand shown marked]
    refine ⟨options,by rw [history,limit],by rw [history,entries,shown]; rfl,?_,
      runCommandUses (c.recording g) signals shown marked⟩
    rw [runCommandSwitches,toggleFlips _ marked]
    rfl
  · obtain ⟨limit,entries⟩ := c.recordingEntries shown
    obtain ⟨switches,history,options⟩ := runCodeKeeps (c.recording g) signals code
    obtain ⟨channel,later⟩ := runCodeSends (c.recording g) signals code
    rw [giveCode sent]
    refine ⟨options,by rw [history,limit],by rw [history,entries,shown]; rfl,?_,by rw [sent,channel,later]; rfl⟩
    rw [switches]
    exact (switchesPlain c.switches plain).symm
  · obtain ⟨limit,entries⟩ := c.recordingEntries shown
    obtain ⟨console,after⟩ := giveRejected shown plain unused signals
    refine ⟨by rw [console]; rfl,by rw [console,limit],by rw [console,entries,shown]; rfl,?_,
      by rw [console,after,unused]; rfl⟩
    rw [console]
    exact (switchesPlain c.switches plain).symm

/-! ## Replies -/

def echo (c : Console σ) (code : Text) : Text :=
  if c.switches.debug then "cy= ".toList ++ c.coloured code ++ ['\n'] else []

def written (c : Console σ) : Rendered → Text
  | .text t => t
  | .code t => c.coloured t

/- Which of the two outputs gets the reply to the code of a line; the echo of the code stands before it. -/
structure Prints (c : Console σ) (code : Text) (reply : Except ChannelError Reply) (h : Handled σ) :
    Prop where
  lost : ∀ e, reply = .error e → h.flow = .error (.lostConnection e) ∧ h.printed = ⟨c.echo code,[]⟩
  silent : reply = .ok .noValue → h.flow = .ok .goOn ∧ h.printed = ⟨c.echo code,[]⟩
  thrown : ∀ v, reply = .ok (.value v) → "throw ".toList <+: v →
    h.flow = .ok .goOn ∧ h.printed = ⟨c.echo code,c.coloured v ++ ['\n']⟩
  value : ∀ v, reply = .ok (.value v) → ¬ "throw ".toList <+: v →
    h.flow = .ok .goOn ∧ ∃ shown, Rendered.Shows c.switches.expand c.switches.pretty v shown ∧
      h.printed = ⟨c.echo code ++ (c.written shown ++ ['\n']),[]⟩

theorem echoed (c : Console σ) (code : Text) :
    (if c.switches.debug then Printed.toOut ("cy= ".toList ++ c.coloured code ++ ['\n']) else {}) =
      ⟨c.echo code,[]⟩ := by
  unfold echo
  split <;> rfl

theorem behindEcho (echo : Text) (p : Printed) : (⟨echo,[]⟩ ++ p : Printed) = ⟨echo ++ p.out,p.err⟩ := rfl

theorem replyThrown (c : Console σ) {v : Text} (leads : "throw ".toList <+: v) :
    c.reply (.value v) = ⟨[],c.coloured v ++ ['\n']⟩ := by
  have throws : isThrown v = true := Text.startsWithIff.mpr leads
  simp only [reply,throws,if_true]
  rfl

theorem replyShown (c : Console σ) {v : Text} (other : ¬ "throw ".toList <+: v) :
    c.reply (.value v) =
      ⟨c.written (Rendered.ofValue c.switches.expand c.switches.pretty v) ++ ['\n'],[]⟩ := by
  have calm : isThrown v = false := Bool.eq_false_iff.mpr fun starts => other (Text.startsWithIff.mp starts)
  simp only [reply,calm,Bool.false_eq_true,if_false]
  cases Rendered.ofValue c.switches.expand c.switches.pretty v <;> rfl

theorem runCodePrints (c : Console σ) (signals : Signals) (code : Text) :
    c.Prints code (c.channel.send signals code).1 (c.runCode signals code) := by
  unfold runCode
  rw [echoed]
  rcases c.channel.send signals code with ⟨e | ⟨v⟩ | _,channel,later⟩
  · exact ⟨by rintro _ ⟨⟩; exact ⟨rfl,rfl⟩,nofun,nofun,nofun⟩
  · refine ⟨nofun,nofun,?_,?_⟩
    · rintro _ ⟨⟩ leads
      refine ⟨rfl,(behindEcho _ _).trans ?_⟩
      rw [replyThrown _ leads,List.append_nil]
      rfl
    · rintro _ ⟨⟩ other
      refine ⟨rfl,_,Rendered.showsOfValue c.switches.expand c.switches.pretty v,(behindEcho _ _).trans ?_⟩
      rw [replyShown _ other]
      rfl
  · refine ⟨nofun,fun _ => ⟨rfl,(behindEcho _ _).trans ?_⟩,nofun,nofun⟩
    rw [reply,List.append_nil]

theorem givePrints {c : Console σ} {g : Given} {code : Text}
    (sent : use? c.options c.switches.bypass g = some (.send code)) (signals : Signals) :
    c.Prints code (c.channel.send signals code).1 (c.give signals g) := by
  obtain ⟨lost,silent,thrown,value⟩ := (c.recording g).runCodePrints signals code
  rw [giveCode sent]
  exact ⟨lost,silent,thrown,value⟩

end Console
end ScriptConsole
