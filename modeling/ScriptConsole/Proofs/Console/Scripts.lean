import ScriptConsole.Proofs.Console.Course
import ScriptConsole.Proofs.Text.Row

/-! A unit run as a script, and the same unit given to a console whose switches are all off. Both compile
it once and send what it compiles to, once; what the console writes to its error output is what makes the
script fail. A script may begin with a line for the system, which is run as if it were empty. -/
namespace ScriptConsole

namespace Batch
open Text (Row rows rowsSole rowsAppend)
variable {σ : Type}

/-! ## The line for the system -/

def marks : Text := ['#','!']

theorem stripUnmarked {source : Text} (unmarked : ¬ marks <+: source) : stripShebang source = source := by
  unfold stripShebang
  split
  · exact absurd ⟨_,rfl⟩ unmarked
  · rfl

theorem stripMarked {source line below : Text} (marked : marks <+: source) (row : Row source [] line below) :
    stripShebang source = below := by
  have front : ∀ c ∈ line, (c != '\n') = true := fun c inside =>
    bne_iff_ne.mpr fun same => row.one (same ▸ inside)
  have dropped : source.dropWhile (· != '\n') = below := by
    rw [row.whole,List.nil_append,List.dropWhile_append_of_pos front]
    rcases row.bottom with rfl | ⟨rest,rfl⟩ <;> rfl
  obtain ⟨rest,rfl⟩ := marked
  exact dropped

theorem belowUnmarked {source line below : Text} (row : Row source [] line below) : ¬ marks <+: below := by
  rcases row.bottom with rfl | ⟨rest,rfl⟩ <;> simp [marks]

theorem rowsBelow {source line below : Text} (row : Row source [] line below) :
    rows below = [] :: (rows source).tail := by
  rw [row.whole,List.nil_append]
  rcases row.bottom with rfl | ⟨rest,rfl⟩
  · rw [List.append_nil,rowsSole row.one]
    rfl
  · rw [rowsAppend,rowsSole row.one]
    exact rowsAppend [] rest

theorem runStripped {source stripped : Text} (same : stripShebang source = stripShebang stripped)
    (language : Language) (options : CompileOptions) (action : Action σ) :
    run source language options action = run stripped language options action := by
  cases action <;> simp only [run,same]

theorem runEmptied {source : Text} (marked : marks <+: source) :
    ∃ emptied, rows emptied = [] :: (rows source).tail ∧
      ∀ (language : Language) (options : CompileOptions) (action : Action σ),
        run source language options action = run emptied language options action := by
  obtain ⟨above,below,row,none,_⟩ := Text.rowExists [] source
  obtain rfl : above = [] := (List.append_eq_nil_iff.mp none.symm).1
  refine ⟨below,rowsBelow row,fun language options action => runStripped ?_ language options action⟩
  rw [stripMarked marked row,stripUnmarked (belowUnmarked row)]

end Batch

namespace Console
open Batch (marks)
variable {σ : Type}

/-! ## One unit, two ways -/

def codes (c : Console σ) (source : Text) : List Text := (c.language.compile source c.options).toOption.toList

inductive Agrees : Except RunError Nat → Except RunError Flow → Text → Prop
  | lost (e : RunError) : Agrees (.error e) (.error e) []
  | failed (flow : Flow) {err : Text} (some : err ≠ []) : Agrees (.ok 1) (.ok flow) err
  | fine (flow : Flow) : Agrees (.ok 0) (.ok flow) []

/- A script has come to the same as a line of the console: to the exit code 1 when the line has written to the
error output, and to 0 when it has not and the target is not lost. -/
structure Alike (c : Console σ) (signals : Signals) (source : Text) (done : Batch.Done σ) (handled : Handled σ) :
    Prop where
  same : done.channel = some (handled.console.channel,handled.signals)
  sent : (handled.console.channel,handled.signals) =
    (c.codes source).foldl (fun now code => (now.1.send now.2 code).2) (c.channel,signals)
  asked : Asked c (c.codes source) handled.console
  lost : ∀ e, done.code = .error e ↔ handled.flow = .error e
  failed : done.code = .ok 1 ↔ handled.printed.err ≠ []
  fine : done.code = .ok 0 ↔ handled.printed.err = [] ∧ ∃ flow, handled.flow = .ok flow

theorem agreesIff {code : Except RunError Nat} {flow : Except RunError Flow} {err : Text}
    (agrees : Agrees code flow err) : (∀ e, code = .error e ↔ flow = .error e) ∧
      (code = .ok 1 ↔ err ≠ []) ∧ (code = .ok 0 ↔ err = [] ∧ ∃ f, flow = .ok f) := by
  cases agrees with
  | lost e => simp
  | failed flow some => simp [some]
  | fine flow => simp

theorem caretsSome (source : Text) (d : Diagnostic) : Report.carets source d ≠ [] := by
  simp [Report.carets]

theorem runSends (c : Console σ) (signals : Signals) {source : Text} (unmarked : ¬ marks <+: source) :
    (Batch.run source c.language c.options (.run c.channel signals)).channel =
      some ((c.codes source).foldl (fun now code => (now.1.send now.2 code).2) (c.channel,signals)) := by
  rw [Batch.run,Batch.stripUnmarked unmarked,codes]
  cases c.language.compile source c.options with
  | error ds => rfl
  | ok code =>
    simp only [Except.toOption,Option.toList,List.foldl_cons,List.foldl_nil]
    rcases c.channel.send signals code with ⟨e | v | _,channel,later⟩
    · rfl
    · cases throws : isThrown v <;> simp only [throws] <;> rfl
    · rfl

section
variable {c : Console σ} {source : Text} (off : c.switches = {}) (shown : source.all Text.isBlank = false)
  (plain : source.head? ≠ some '?')
include off shown plain

theorem useCompiled :
    use? c.options c.switches.bypass ⟨c.language,source⟩ = (c.codes source).head?.map Use.send := by
  have visible : Given.blank ⟨c.language,source⟩ = false := shown
  rw [use?,visible,if_neg Bool.false_ne_true,if_neg plain,off,codes]
  cases c.language.compile source c.options <;> rfl

theorem handleSends (signals : Signals) :
    ((c.handleLine signals source).console.channel,(c.handleLine signals source).signals) =
      ((c.codes source).map Use.send).foldl Use.perform (c.channel,signals) := by
  have treats := c.giveTreats signals ⟨c.language,source⟩
  have sent := treats.channel
  rw [useCompiled off shown plain] at sent
  refine sent.trans ?_
  unfold codes
  cases c.language.compile source c.options <;> rfl

theorem handleRejects (signals : Signals) {first : Diagnostic} {more : List Diagnostic}
    (rejected : c.language.compile source c.options = .error (first :: more)) :
    (c.handleLine signals source).flow = .ok .goOn ∧
      (c.handleLine signals source).printed = ⟨[],Report.carets source first⟩ := by
  have through : c.switches.bypass = false := by rw [off]
  simp only [handleLine,shown,plain,through,rejected,Bool.false_eq_true,if_false]
  exact ⟨trivial,rfl⟩

theorem handlePrints (signals : Signals) {code : Text} (compiled : c.language.compile source c.options = .ok code) :
    c.Prints code (c.channel.send signals code).1 (c.handleLine signals source) := by
  have sent : use? c.options c.switches.bypass ⟨c.language,source⟩ = some (.send code) := by
    rw [useCompiled off shown plain,codes,compiled]
    rfl
  exact givePrints sent signals

theorem handleAgrees (signals : Signals) (unmarked : ¬ marks <+: source)
    (explains : c.language.compile source c.options ≠ .error []) :
    Agrees (Batch.run source c.language c.options (.run c.channel signals)).code
      (c.handleLine signals source).flow (c.handleLine signals source).printed.err := by
  rw [Batch.run,Batch.stripUnmarked unmarked]
  cases compiled : c.language.compile source c.options with
  | error ds =>
    cases ds with
    | nil => exact absurd compiled explains
    | cons first more =>
      obtain ⟨flow,printed⟩ := handleRejects off shown plain signals compiled
      rw [flow,printed]
      exact .failed .goOn (caretsSome source first)
  | ok code =>
    obtain ⟨lost,silent,thrown,value⟩ := handlePrints off shown plain signals compiled
    cases reply : (c.channel.send signals code).1 with
    | error e =>
      obtain ⟨flow,printed⟩ := lost e reply
      simp only [reply,flow,printed]
      exact .lost (.lostConnection e)
    | ok reply' =>
      cases reply' with
      | noValue =>
        obtain ⟨flow,printed⟩ := silent reply
        simp only [reply,flow,printed]
        exact .fine .goOn
      | value v =>
        by_cases leads : "throw ".toList <+: v
        · have throws : isThrown v = true := Text.startsWithIff.mpr leads
          obtain ⟨flow,printed⟩ := thrown v reply leads
          simp only [reply,flow,printed,throws,if_true]
          exact .failed .goOn (by simp)
        · have calm : isThrown v = false :=
            Bool.eq_false_iff.mpr fun starts => leads (Text.startsWithIff.mp starts)
          obtain ⟨flow,_,_,printed⟩ := value v reply leads
          simp only [reply,flow,printed,calm]
          exact .fine .goOn

theorem unitAlike (signals : Signals) (unmarked : ¬ marks <+: source)
    (explains : c.language.compile source c.options ≠ .error []) :
    c.Alike signals source (Batch.run source c.language c.options (.run c.channel signals))
      (c.handleLine signals source) := by
  have sends := handleSends off shown plain signals
  have asked := askedUses ((c.codes source).map Use.send) sends
  have noted : ((c.codes source).map Use.send).filterMap Use.code? = c.codes source := by
    rw [List.filterMap_map]
    exact List.filterMap_some
  rw [noted] at asked
  rw [List.foldl_map] at sends
  obtain ⟨lost,failed,fine⟩ := agreesIff (handleAgrees off shown plain signals unmarked explains)
  have same := c.runSends signals unmarked
  exact ⟨same.trans (congrArg some sends.symm),sends,asked,lost,failed,fine⟩

end

/- Every unit that is more than blanks, and neither a command nor marked for the system, goes the same way as
a script and as a line; a marked one goes as the unit whose first line is empty. -/
theorem unitsAlike (c : Console σ) (signals : Signals) (off : c.switches = {})
    (explains : ∀ source options, c.language.compile source options ≠ .error []) :
    (∀ source, source.all Text.isBlank = false → source.head? ≠ some '?' → ¬ marks <+: source →
      c.Alike signals source (Batch.run source c.language c.options (.run c.channel signals))
        (c.handleLine signals source)) ∧
      ∀ source, marks <+: source → ∃ emptied, Text.rows emptied = [] :: (Text.rows source).tail ∧
        ∀ (options : CompileOptions) (action : Batch.Action σ),
          Batch.run source c.language options action = Batch.run emptied c.language options action := by
  refine ⟨fun source shown plain unmarked =>
    unitAlike off shown plain signals unmarked (explains source c.options),fun source marked => ?_⟩
  obtain ⟨emptied,lines,alike⟩ := @Batch.runEmptied σ source marked
  exact ⟨emptied,lines,alike c.language⟩

theorem lexicalExplains (source : Text) (options : CompileOptions) :
    Language.lexical.compile source options ≠ .error [] := by
  simp only [Language.lexical]
  split
  · exact nofun
  · rename_i errors
    exact fun none => errors (Except.error.inj none)

def plainConsole : Console (List Text) := { strictConsole with options := {} }

theorem unitsAlikeThrown :
    (Batch.run "throw 1".toList .lexical {} (.run plainConsole.channel {})).code = .ok 1 ∧
      (plainConsole.handleLine {} "throw 1".toList).console.channel.target = .inProcess ["throw 1".toList] ∧
      ∃ emptied, Text.rows emptied = [[],"throw 1".toList] ∧ ∀ action : Batch.Action (List Text),
        Batch.run "#!x\nthrow 1".toList .lexical {} action = Batch.run emptied .lexical {} action := by
  obtain ⟨alike,marked⟩ := unitsAlike plainConsole {} rfl lexicalExplains
  have thrown := alike "throw 1".toList (by decide) (by decide) (by decide)
  obtain ⟨state,target,noted⟩ := thrown.asked.evaluated id Agent.keepingNotes [] rfl
  obtain ⟨emptied,lines,same⟩ := marked "#!x\nthrow 1".toList (by decide)
  refine ⟨thrown.failed.mpr (by decide +kernel),?_,emptied,lines,same {}⟩
  rw [target]
  exact congrArg Target.inProcess (noted.trans (by decide +kernel))

end Console

end ScriptConsole
