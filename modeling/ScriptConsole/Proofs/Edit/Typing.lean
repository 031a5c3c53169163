import ScriptConsole.Proofs.Edit.Keys
import ScriptConsole.Proofs.Text.Row

/-! A unit typed at the empty prompt, each character by its key and each line ended by Enter. The editor
holds what has been typed of it so far, with the point behind it, until the Enter that ends the last line
hands it over. When everything is passed on, each line is handed over by itself. -/
namespace ScriptConsole

namespace Text

theorem newlinesAfterWord {before : Text} {c : Char} {rest : Text} (line : openLine before = c :: rest)
    (content : isBlank c = false) : newlinesAfterContent before = 0 := by
  obtain ⟨above,whole,_⟩ := openLineParts before
  rw [line] at whole
  obtain ⟨kept,trimmed⟩ := trimEndKeeps above content rest
  have parts := trimEndParts before
  rw [whole,trimmed,List.append_assoc,← whole] at parts
  have tail : c :: rest = c :: kept ++ blankTail before :=
    List.append_cancel_left (whole.symm.trans parts)
  rw [newlinesAfterContent,List.count_eq_zero]
  intro inside
  refine openLineOne before ?_
  rw [line,tail]
  exact List.mem_append_right _ inside

theorem openLineRow (before after : Text) : openLine before ∈ rows (before ++ '\n' :: after) := by
  obtain ⟨above,below,row,_,_⟩ := rowExists before ('\n' :: after)
  have ended : restOfLine ('\n' :: after) = [] := rfl
  rw [ended,List.append_nil] at row
  exact List.mem_of_getElem? (rowAt row)

theorem brokenWord {before : Text} {c : Char} {rest : Text} (line : openLine before = c :: rest)
    (content : isBlank c = false) : broken before = before ++ ['\n'] := by
  have other : (c == ' ') = false := beq_false_of_ne (blankNot (d := c) (by decide) content).symm
  simp only [broken,line,List.all_cons,other,List.takeWhile_cons,Bool.false_and]
  rfl

end Text

namespace Editor
open Buffer (parts partsEnd)
variable {κ : Type} {s : Surroundings κ}

def pressAll (s : Surroundings κ) : List Key → Editor → κ → Option (List Outcome × Editor × κ)
  | [],e,k => some ([],e,k)
  | key :: rest,e,k => do
      let (o,e,k) ← e.press s k key
      let (os,e,k) ← pressAll s rest e k
      some (o :: os,e,k)

theorem pressAllStep {key : Key} {e e' : Editor} {k k' : κ} {o : Outcome}
    (pressed : e.press s k key = some (o,e',k')) (rest : List Key) :
    pressAll s (key :: rest) e k = (pressAll s rest e' k').map fun (os,e,k) => (o :: os,e,k) := by
  simp only [pressAll,pressed,bind,Option.bind]
  cases pressAll s rest e' k' <;> rfl

theorem pressAllAppend {keys more : List Key} {e e' : Editor} {k k' : κ} {os : List Outcome}
    (pressed : pressAll s keys e k = some (os,e',k')) :
    pressAll s (keys ++ more) e k = (pressAll s more e' k').map fun (os',e,k) => (os ++ os',e,k) := by
  induction keys generalizing e k os with
  | nil =>
    cases pressed
    rw [List.nil_append]
    cases pressAll s more e' k' <;> rfl
  | cons key rest ih =>
    simp only [pressAll,Option.bind_eq_bind,Option.bind_eq_some_iff] at pressed
    obtain ⟨⟨o,e₁,k₁⟩,first,⟨os₁,e₂,k₂⟩,later,same⟩ := pressed
    cases same
    rw [List.cons_append,pressAllStep first,ih later,Option.map_map]
    rfl

inductive Writes : List Key → Text → Prop
  | nothing : Writes [] []
  | enters {key : Key} {keys : List Key} {rest : Text} (code : key.code = .enter) (later : Writes keys rest) :
      Writes (key :: keys) ('\n' :: rest)
  | types {key : Key} {keys : List Key} {c : Char} {rest : Text} (other : c ≠ '\n') (types : Key.Types key c)
      (later : Writes keys rest) : Writes (key :: keys) (c :: rest)

def typed (before : Text) : Editor := ⟨parts before [],{}⟩

theorem pressTypes {key : Key} {c : Char} (types : Key.Types key c) (before : Text) (k : κ) :
    (typed before).press s k key = some (.changed,typed (before ++ [c]),k) := by
  obtain ⟨code,control,alt⟩ := types
  have inserted := Buffer.insertParts before [] [c]
  simp only [press,code,control,alt,put,typed,inserted]
  rfl

theorem pressEnters {key : Key} (code : key.code = .enter) {e e' : Editor} {o : Outcome}
    (entered : e.enter s = some (o,e')) (k : κ) : e.press s k key = some (o,e',k) := by
  simp only [press,code,entered]
  rfl

/-! ## One unit -/

/- A unit of lines with no blank at their beginning that is whole for a language, while after each line
but the last the language reports on the line behind it. -/
structure Awaited (l : Language) (unit : Text) : Prop where
  lines : ∀ line ∈ Text.rows unit, ∃ c rest, line = c :: rest ∧ Text.isBlank c = false
  plain : unit.head? ≠ some '?'
  open_ : ∀ before after, unit = before ++ '\n' :: after → ∃ ds, l.check (before ++ ['\n']) = .error ds ∧
    ∃ d ∈ ds, d.line = Diagnostic.lineAfterContent (before ++ ['\n'])
  closed : l.check (unit ++ ['\n']) = .ok ()

section
variable {unit before after : Text} (awaited : Awaited s.language unit) (asks : s.bypass = false)
include awaited asks

theorem enterContinues (whole : unit = before ++ '\n' :: after) :
    (typed before).enter s = some (.changed,typed (before ++ ['\n'])) := by
  obtain ⟨ds,failed,d,member,line⟩ := awaited.open_ before after whole
  have row := Text.openLineRow before after
  rw [← whole] at row
  obtain ⟨c,rest,begins,content⟩ := awaited.lines _ row
  have plain : before.head? ≠ some '?' := by
    have first := awaited.plain
    rw [whole] at first
    cases before with
    | nil => exact nofun
    | cons d rest => exact first
  have elsewhere : ds.all (·.line == Text.lineCount before) = false := by
    rw [List.all_eq_false]
    refine ⟨d,member,?_⟩
    rw [line,beq_iff_eq,openDiagnosticLine,Text.newlinesAfterWord begins content]
    exact Nat.zero_ne_one
  rw [typed,enterAtEnd s {} before asks plain,failed]
  simp only [elsewhere]
  rw [Text.brokenWord begins content]
  rfl

theorem enterCloses : (typed unit).enter s = some (.submit unit,{}) := by
  rw [typed,enterAtEnd s {} unit asks awaited.plain,awaited.closed]

theorem typedFrom {rest : Text} {keys : List Key} (written : Writes keys (rest ++ ['\n']))
    (whole : unit = before ++ rest) (k : κ) :
    pressAll s keys (typed before) k = some (List.replicate rest.length .changed ++ [.submit unit],{},k) := by
  -- on what is still to be typed; what has been typed stands in the editor
  induction rest generalizing before keys with
  | nil =>
    rw [List.append_nil] at whole
    subst whole
    cases written with
    | types other => exact absurd rfl other
    | enters code last =>
      cases last
      rw [pressAllStep (pressEnters code (enterCloses awaited asks) k)]
      rfl
  | cons c rest ih =>
    have more : unit = before ++ [c] ++ rest := by rw [whole,List.append_assoc]; rfl
    cases written with
    | enters code later =>
      rw [pressAllStep (pressEnters code (enterContinues awaited asks whole) k),ih later more]
      rfl
    | types other types later =>
      rw [pressAllStep (pressTypes types before k),ih later more]
      rfl

end

/-! ## Everything passed on -/

theorem enterPasses (passes : s.bypass = true) (before : Text) :
    (typed before).enter s = some (.submit before,{}) := by
  have text : (parts before []).text = before := List.append_nil before
  simp only [enter,typed,partsEnd,passes,submit,text]
  rfl

def passed (line : Text) : List Outcome := List.replicate line.length .changed ++ [.submit line]

theorem passedFrom (passes : s.bypass = true) (before : Text) {rest : Text} {keys : List Key}
    (written : Writes keys (rest ++ ['\n'])) {first : Text} {others : List Text}
    (lines : Text.rows rest = first :: others) (k : κ) :
    pressAll s keys (typed before) k = some
      (List.replicate first.length .changed ++ .submit (before ++ first) :: others.flatMap passed,{},k) := by
  induction rest generalizing before keys first others with
  | nil =>
    cases lines
    cases written with
    | types other => exact absurd rfl other
    | enters code last =>
      cases last
      rw [pressAllStep (pressEnters code (enterPasses passes before) k),List.append_nil]
      rfl
  | cons c rest ih =>
    obtain ⟨next,more,shape⟩ := Text.rowsExist rest
    cases written with
    | enters code later =>
      have ended : Text.rows ('\n' :: rest) = [] :: Text.rows rest := Text.rowsAppend [] rest
      rw [ended,shape] at lines
      cases lines
      have anew : pressAll s _ {} k = _ := ih [] later shape
      rw [pressAllStep (pressEnters code (enterPasses passes before) k),anew,List.append_nil,List.flatMap_cons,
        passed,List.append_assoc]
      rfl
    | types other types later =>
      have longer : Text.rows (c :: rest) = (c :: next) :: more := by
        rw [Text.rows] at shape
        simp only [Text.rows,Text.splitOn,if_neg other,shape]
      rw [longer] at lines
      cases lines
      rw [pressAllStep (pressTypes types before k),ih (before ++ [c]) later shape,List.append_assoc]
      rfl

/- Every key but the last changes the text and nothing else, and the last hands over the whole unit and
leaves a new editor. -/
theorem typedOnce (s : Surroundings κ) {unit : Text} (awaited : Awaited s.language unit) {keys : List Key}
    (written : Writes keys (unit ++ ['\n'])) (k : κ) :
    pressAll s keys {} k = some
      (if s.bypass then (Text.rows unit).flatMap passed
        else List.replicate unit.length .changed ++ [.submit unit],{},k) := by
  cases asks : s.bypass with
  | false => exact typedFrom awaited asks written (List.nil_append unit).symm k
  | true =>
    obtain ⟨first,others,lines⟩ := Text.rowsExist unit
    rw [if_pos rfl,lines,List.flatMap_cons,passed,List.append_assoc]
    exact passedFrom asks [] written lines k

def block : Text := ['{','\n','}']

def blockKeys : List Key := [{ code := .char '{' },{ code := .enter },{ code := .char '}' },{ code := .enter }]

theorem blockAwaited : Awaited .lexical block where
  lines line inside := by
    have two : Text.rows block = [['{'],['}']] := rfl
    rw [two] at inside
    rcases List.mem_cons.mp inside with rfl | last
    · exact ⟨'{',[],rfl,by decide⟩
    · exact ⟨'}',[],List.mem_singleton.mp last,by decide⟩
  plain := by decide
  open_ before after whole := by
    have opened : before = ['{'] := by
      rcases before with _ | ⟨a,_ | ⟨b,_ | ⟨c,more⟩⟩⟩
      · cases whole
      · cases whole
        rfl
      · cases whole
      · have lengths := congrArg List.length whole
        simp [block] at lengths
    subst opened
    exact Language.lexicalReportsOpenEnds ['{','\n'] (by decide)
  closed := rfl

theorem typedOnceBlock : Awaited .lexical block ∧ Writes blockKeys (block ++ ['\n']) ∧
    pressAll (quietSurroundings .lexical) blockKeys {} () =
      some ([.changed,.changed,.changed,.submit block],{},()) := by
  have written : Writes blockKeys (block ++ ['\n']) :=
    .types (by decide) ⟨rfl,rfl,rfl⟩ (.enters rfl (.types (by decide) ⟨rfl,rfl,rfl⟩ (.enters rfl .nothing)))
  exact ⟨blockAwaited,written,typedOnce (quietSurroundings .lexical) blockAwaited written ()⟩

end Editor

end ScriptConsole
