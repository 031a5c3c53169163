import ScriptConsole.Proofs.Console.Lines
import ScriptConsole.Proofs.Target.Conversation

/-! What has come of a console after any number of lines. The lines alone say what its history holds,
where its switches stand and what its target was asked, in order, however the target fares. The history
is one as it is made: with room for an entry, and no longer than its limit. -/
namespace ScriptConsole.Console
open Channel (Sendable)
open Conversation (requestsBytes)
variable {σ : Type}

def after (c : Console σ) (signals : Signals) (lines : List Given) : Console σ × Signals :=
  lines.foldl (fun now g => ((now.1.give now.2 g).console,(now.1.give now.2 g).signals)) (c,signals)

structure Kept (c : Console σ) (signals : Signals) (lines : List Given) (now : Console σ × Signals) :
    Prop where
  options : now.1.options = c.options
  limit : now.1.history.maxEntries = c.history.maxEntries
  entries : now.1.history.entries =
    History.lastN c.history.maxEntries (c.history.entries ++ recordable lines)
  switches : now.1.switches = switchesAfter c.switches lines
  channel : (now.1.channel,now.2) =
    (uses c.options c.switches.bypass lines).foldl Use.perform (c.channel,signals)

theorem keptStart {c : Console σ} (limited : c.history.Limited) (signals : Signals) :
    Kept c signals [] (c,signals) := by
  refine ⟨rfl,rfl,?_,rfl,rfl⟩
  rw [recordable,List.filter_nil,List.map_nil,List.append_nil,History.lastNWhole limited.within]

theorem keptStep {c : Console σ} {signals : Signals} {lines : List Given} {now : Console σ × Signals}
    (limited : c.history.Limited) (kept : Kept c signals lines now) (g : Given) :
    Kept c signals (lines ++ [g]) ((now.1.give now.2 g).console,(now.1.give now.2 g).signals) := by
  obtain ⟨options,limit,entries,switches,channel⟩ := kept
  have treats := now.1.giveTreats now.2 g
  have bypass : now.1.switches.bypass = flipped "bypass" c.switches.bypass lines :=
    congrArg Switches.bypass switches
  refine ⟨treats.options.trans options,treats.limit.trans limit,?_,?_,?_⟩
  · rw [treats.entries,entries,limit,recordableSnoc]
    cases g.blank with
    | true => rw [if_pos rfl,if_pos rfl,List.append_nil]
    | false =>
      rw [if_neg Bool.false_ne_true,if_neg Bool.false_ne_true,History.lastNAppend limited.positive,
        List.append_assoc]
  · rw [treats.switches,switches,← switchesSnoc]
  · rw [treats.channel,options,bypass,channel,usesSnoc,List.foldl_append]

theorem keptRun {c : Console σ} {signals : Signals} {earlier : List Given} {now : Console σ × Signals}
    (limited : c.history.Limited) (kept : Kept c signals earlier now) (lines : List Given) :
    Kept c signals (earlier ++ lines) (now.1.after now.2 lines) := by
  induction lines generalizing earlier now with
  | nil => rwa [List.append_nil]
  | cons g rest ih =>
    have others := ih (keptStep limited kept g)
    rwa [List.append_assoc] at others

/-! ## What the target has seen -/

theorem performNoted {E : Evaluator σ} {note : σ → List Text} (notes : E.Notes note) (state : σ)
    (signals : Signals) (asked : List Use) :
    ∃ state', (asked.foldl Use.perform (⟨E,.inProcess state⟩,signals)).1 = ⟨E,.inProcess state'⟩ ∧
      note state' = note state ++ asked.filterMap Use.code? := by
  induction asked generalizing state signals with
  | nil => exact ⟨state,rfl,(List.append_nil _).symm⟩
  | cons use rest ih =>
    cases use with
    | send code =>
      let entered := (signals.withMode .evaluating).clearCancel
      obtain ⟨state',final,whole⟩ := ih (E.evaluate state entered code).2.1
        ((E.evaluate state entered code).2.2.clearCancel.withMode signals.mode)
      exact ⟨state',final,by rw [whole,notes.evaluate,List.append_assoc]; rfl⟩
    | collect =>
      obtain ⟨state',final,whole⟩ := ih (E.collectGarbage state) signals
      exact ⟨state',final,by rw [whole,notes.collect]; rfl⟩
    | destroy =>
      obtain ⟨state',final,whole⟩ := ih (E.reset state).2 signals
      exact ⟨state',final,by rw [whole,notes.reset]; rfl⟩

theorem performWrites {E : Evaluator σ} {s : Stream} (signals : Signals) {asked : List Use}
    (open' : s.room = none) (small : ∀ code ∈ asked.filterMap Use.code?, Sendable code) :
    ∃ s', (asked.foldl Use.perform (⟨E,.remote s⟩,signals)).1 = ⟨E,.remote s'⟩ ∧
      s'.written = s.written ++ requestsBytes (asked.filterMap Use.code?) := by
  induction asked generalizing s signals with
  | nil => exact ⟨s,rfl,(List.append_nil _).symm⟩
  | cons use rest ih =>
    cases use with
    | send code =>
      obtain ⟨opened,wrote⟩ := Conversation.exchangeWrites open' (small code List.mem_cons_self)
      obtain ⟨s',final,whole⟩ := ih signals opened fun t inside => small t (List.mem_cons_of_mem _ inside)
      refine ⟨s',final,?_⟩
      rw [whole,wrote,List.append_assoc]
      rfl
    | collect | destroy => exact ih signals open' small

structure Asked (c : Console σ) (codes : List Text) (now : Console σ) : Prop where
  evaluated : ∀ note, c.channel.evaluator.Notes note → ∀ state, c.channel.target = .inProcess state →
    ∃ state', now.channel.target = .inProcess state' ∧ note state' = note state ++ codes
  written : ∀ s, c.channel.target = .remote s → s.room = none → (∀ code ∈ codes, Sendable code) →
    ∃ s', now.channel.target = .remote s' ∧ s'.written = s.written ++ requestsBytes codes

theorem askedUses {c now : Console σ} {signals later : Signals} (asked : List Use)
    (channel : (now.channel,later) = asked.foldl Use.perform (c.channel,signals)) :
    Asked c (asked.filterMap Use.code?) now := by
  have channel := congrArg Prod.fst channel
  have start (target : Target σ) (given : c.channel.target = target) :
      c.channel = ⟨c.channel.evaluator,target⟩ := by rw [← given]
  constructor
  · intro note notes state given
    obtain ⟨state',final,whole⟩ := performNoted notes state signals asked
    rw [← start _ given,← channel] at final
    exact ⟨state',congrArg Channel.target final,whole⟩
  · intro s given open' small
    obtain ⟨s',final,whole⟩ := performWrites (E := c.channel.evaluator) signals open' small
    rw [← start _ given,← channel] at final
    exact ⟨s',congrArg Channel.target final,whole⟩

theorem askedRun {c : Console σ} {signals : Signals} {lines : List Given} {now : Console σ × Signals}
    (kept : Kept c signals lines now) : Asked c (sends c.options c.switches.bypass lines) now.1 :=
  askedUses (uses c.options c.switches.bypass lines) kept.channel

def strictConsole : Console (List Text) where
  options := { strict := true }
  language := .lexical
  highlighter := .plain
  colorize := false
  history := ⟨none,["b".toList],.onExit,3,0,false⟩
  channel := ⟨Agent.keeping,.inProcess []⟩
  reader := { prompt := ['>',' '], highlighter := .plain, width := 80 }

def strictLines : List Given :=
  ["a","@@","?bypass","@@"," "].map fun line => ⟨.lexical,line.toList⟩

def silent : Language := { Language.lexical with compile := fun _ _ => .ok [] }

end ScriptConsole.Console
