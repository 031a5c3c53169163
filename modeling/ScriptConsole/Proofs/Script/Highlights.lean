import Mathlib.Data.List.Infix
import ScriptConsole.Script.Highlight
import ScriptConsole.Proofs.Screen.Highlighting

/-! Highlights of a script. Whatever outline a text has, its highlights are properly nested and their
pieces are the text, so that highlighting changes nothing that is visible. `highlighterDisplays` and
`highlighterDresses` are results of their own: a language's highlighter is one that a reader may be ready
with. -/
namespace ScriptConsole.Script

namespace Source

theorem placesFrom (text : Text) (places : Array (Text × Nat × Nat)) (bytes rows : Nat) :
    ((ofText.go text places bytes rows).map (·.1)).toList = (places.map (·.1)).toList ++ text.tails := by
  induction text generalizing places bytes rows with
  | nil => simp [ofText.go]
  | cons c rest ih =>
    rw [ofText.go,ih]
    simp

theorem suffixesTails (text : Text) : (ofText text).suffixes.toList = text.tails := by
  show ((ofText.go text #[] 0 0).map (·.1)).toList = text.tails
  rw [placesFrom,List.map_toArray]
  rfl

theorem afterText (text : Text) (place : Nat) : (ofText text).after place = text.drop place := by
  rw [after,Array.getD_eq_getD_getElem?,← Array.getElem?_toList,suffixesTails]
  by_cases inside : place < text.tails.length
  · rw [List.getElem?_eq_getElem inside,List.getElem_tails]
    rfl
  · rw [List.getElem?_eq_none (by omega)]
    rw [List.length_tails] at inside
    exact (List.drop_eq_nil_of_le (by omega)).symm

theorem lengthText (text : Text) : (ofText text).length = text.length := by
  rw [length,← Array.length_toList,suffixesTails,List.length_tails,Nat.add_sub_cancel]

end Source

namespace Highlight
open Colouring (openBehind sourceOf Nested)

def Border.event (border : Border) : Colouring.Event :=
  match border.starts with
  | some index => .start index
  | none => .stop

theorem pieceOpen (source : Source) (start stop n : Nat) (rest : List Colouring.Event) :
    openBehind n (events.piece source start stop ++ rest) = openBehind n rest := by
  rw [events.piece]
  split <;> rfl

theorem eventsOpen (source : Source) (from_ n : Nat) (places : List Border) :
    openBehind n (events source from_ places) = openBehind n (places.map Border.event) := by
  induction places generalizing from_ n with
  | nil =>
    rw [events,← List.append_nil (events.piece _ _ _),pieceOpen]
    rfl
  | cons border rest ih =>
    rw [events,pieceOpen,List.map_cons,Border.event]
    cases border.starts with
    | some index => exact ih _ (n + 1)
    | none =>
      cases n with
      | zero => rfl
      | succ n => exact ih _ n

mutual

theorem bordersOpen (source : Source) (around : List Node) (node : Node) (n : Nat) :
    openBehind n ((borders source around node).map Border.event) = some n := by
  rw [borders]
  have inner := bordersOfOpen source (node :: around) node.children
  split
  · rw [List.map_append,List.map_cons,Colouring.openAppend]
    show (openBehind (n + 1) _).bind _ = _
    rw [inner (n + 1)]
    rfl
  · exact inner n
termination_by (sizeOf node, 0)
decreasing_by
  exact Prod.Lex.left _ _ (Node.childrenSmaller node)

theorem bordersOfOpen (source : Source) (around : List Node) (nodes : List Node) (n : Nat) :
    openBehind n ((bordersOf source around nodes).map Border.event) = some n := by
  cases nodes with
  | nil => rw [bordersOf]; rfl
  | cons node rest =>
    rw [bordersOf,List.map_append,Colouring.openAppend,bordersOpen source around node n]
    exact bordersOfOpen source around rest n
termination_by (sizeOf nodes, 1)
decreasing_by
  all_goals
    simp only [List.cons.sizeOf_spec]
    apply Prod.Lex.left
    omega

end

theorem pieceSource (text : Text) (start stop : Nat) :
    sourceOf (events.piece (.ofText text) start stop) ++ text.drop (max start stop) = text.drop start := by
  rw [events.piece]
  split
  · rename_i before
    rw [Nat.max_eq_right (Nat.le_of_lt before),Source.slice,Source.afterText]
    show ((text.drop start).take (stop - start) ++ []) ++ text.drop stop = text.drop start
    have rest : text.drop stop = (text.drop start).drop (stop - start) := by
      rw [List.drop_drop]
      congr 1
      omega
    rw [List.append_nil,rest,List.take_append_drop]
  · rename_i behind
    rw [Nat.max_eq_left (by omega)]
    rfl

theorem eventsSource (text : Text) (from_ : Nat) (places : List Border) :
    sourceOf (events (.ofText text) from_ places) = text.drop from_ := by
  induction places generalizing from_ with
  | nil =>
    have whole := pieceSource text from_ text.length
    rwa [List.drop_eq_nil_of_le (Nat.le_max_right _ _),List.append_nil,← Source.lengthText] at whole
  | cons border rest ih =>
    have parts (mark : Colouring.Event) (silent : sourceOf [mark] = []) :
        sourceOf (events.piece (.ofText text) from_ border.place ++ mark ::
          events (.ofText text) (max from_ border.place) rest) = text.drop from_ := by
      rw [List.append_cons,sourceOf,List.flatMap_append,List.flatMap_append]
      show sourceOf _ ++ sourceOf [mark] ++ sourceOf _ = _
      rw [silent,List.append_nil,ih,pieceSource]
    rw [events]
    exact parts _ (by cases border.starts <;> rfl)

theorem highlightsNested (source : Source) (root : Node) : Nested (events source 0 (borders source [] root)) := by
  rw [Nested,eventsOpen]
  exact bordersOpen source [] root 0

end Highlight

/- What is visible is the text, in the colours of the highlights of its outline. -/
theorem Tongue.highlighterDisplays (tongue : Tongue) {text : Text} (clean : ∀ c ∈ text, Colouring.Clean c) :
    ∃ shown, Colouring.texts shown = text ∧
      ∀ markers, Colouring.Displays markers none (tongue.highlighter.highlight text markers) shown none := by
  let source := Source.ofText text
  let root := tongue.outline source
  have whole : Colouring.sourceOf (Highlight.events source 0 (Highlight.borders source [] root)) = text :=
    Highlight.eventsSource text 0 _
  rw [← whole] at clean
  obtain ⟨shown,_,texts,displays⟩ := Colouring.nestedDisplays (Highlight.highlightsNested source root) clean
  exact ⟨shown,texts.trans whole,displays⟩

theorem Tongue.highlighterDresses (tongue : Tongue) {text : Text} (clean : ∀ c ∈ text, Colouring.Clean c) :
    Marked.Dresses (tongue.highlighter.highlight text true) text ∧
      Escape.strip (tongue.highlighter.highlight text false) = text := by
  obtain ⟨shown,rfl,displays⟩ := tongue.highlighterDisplays clean
  exact ⟨Colouring.displaysDresses (displays true),Colouring.displaysBare (displays false)⟩

end ScriptConsole.Script
