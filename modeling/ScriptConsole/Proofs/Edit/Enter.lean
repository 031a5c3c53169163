import ScriptConsole.Edit.Editor
import ScriptConsole.Proofs.Text.Line
import ScriptConsole.Proofs.Text.Blank
import ScriptConsole.Proofs.Edit.Zipper

/-! Enter at the end of a text that is still open. The language says on which line the input ran out,
counted in the text without its trailing blanks; Enter compares it with the line of the point. The
two differ for every open text except one with a single newline after its last content. -/
namespace ScriptConsole

namespace Text

def newlinesAfterContent (t : Text) : Nat := (blankTail t).count '\n'

theorem trimEndNewline (t : Text) : trimEnd (t ++ ['\n']) = trimEnd t := by
  have blank : isBlank '\n' = true := by decide
  simp [trimEnd,blank]

theorem lineCountParts (t : Text) :
    lineCount t = (trimEnd t).count '\n' + newlinesAfterContent t + 1 := by
  have counts := congrArg (List.count '\n') (trimEndParts t)
  rw [List.count_append] at counts
  simp only [lineCount,newlinesAfterContent,counts]

def broken (before : Text) : Text :=
  let line := openLine before
  (if line.all (· == ' ') then before.take (before.length - line.length) else before) ++
    '\n' :: Editor.spaces (line.takeWhile (· == ' ')).length

end Text

theorem Continuation.endsInsideNewline (t : Text) : endsInside (t ++ ['\n']) = endsInside t := by
  simp only [endsInside,Text.trimEndNewline]

namespace Language

/- What the parsers of the console promise: a source that stops inside a construct is wrong on the
line after its last one with content. -/
def ReportsOpenEnds (l : Language) : Prop :=
  ∀ source, Continuation.endsInside source = true →
    ∃ ds, l.check source = .error ds ∧ ∃ d ∈ ds, d.line = Diagnostic.lineAfterContent source

def onlyReports (l : Language) (source : Text) (line : Nat) : Bool :=
  match l.check source with
  | .ok () => false
  | .error ds => ds.all (·.line == line)

theorem lexicalReportsOpenEnds : ReportsOpenEnds lexical := by
  intro source inside
  let last := Diagnostic.endOfInput source Diagnostic.unexpectedEnd
  have member : last ∈ lexicalErrors source := by simp [lexicalErrors,inside,last]
  cases errors : lexicalErrors source with
  | nil => rw [errors] at member; contradiction
  | cons d ds =>
    refine ⟨d :: ds,by simp [lexical,errors],last,by rw [← errors]; exact member,rfl⟩

def endsOnly : Language where
  check source :=
    if Continuation.endsInside source then
      .error [Diagnostic.endOfInput source Diagnostic.unexpectedEnd]
    else .ok ()
  compile source _ := .ok source

theorem endsOnlyReportsOpenEnds : ReportsOpenEnds endsOnly := by
  intro source inside
  refine ⟨[Diagnostic.endOfInput source Diagnostic.unexpectedEnd],?_,_,List.mem_singleton_self _,rfl⟩
  simp [endsOnly,inside]

end Language

namespace Editor
open Buffer (parts partsText partsPoint partsEnd insertParts)

theorem breakLineParts (before after : Text) (r : Recall) :
    breakLine ⟨parts before after,r⟩ = some ⟨parts (Text.broken before) after,r⟩ := by
  obtain ⟨pre,whole,_,start⟩ := Text.lineStartAt before after
  have indent := Text.indentAt before after
  have leading := Text.leadingSpacesAt before after
  by_cases spacesOnly : (Text.openLine before).all (· == ' ') = true
  · have kept : before.take (before.length - (Text.openLine before).length) = pre := by
      have lengths := congrArg List.length whole
      rw [List.length_append] at lengths
      conv => lhs; arg 2; rw [whole]
      rw [show before.length - (Text.openLine before).length = pre.length by omega]
      exact List.take_left
    have removed : (parts before after).delete? (Text.size pre) (Text.size before) =
        some (parts pre after) := by
      have cut := Buffer.deleteBefore pre (Text.openLine before) after
      rwa [← whole] at cut
    simp only [breakLine,partsText,partsPoint,indent,leading,spacesOnly,if_true,start,removed,
      insertParts,bind,Option.bind]
    simp [withBuffer,Text.broken,spacesOnly,kept]
  · simp only [breakLine,partsText,partsPoint,indent,leading,spacesOnly,insertParts,bind,Option.bind]
    simp [withBuffer,Text.broken,spacesOnly]

theorem enterAtEnd {κ : Type} (s : Surroundings κ) (r : Recall) (t : Text)
    (asks : s.bypass = false) (question : t.head? ≠ some '?') :
    enter ⟨parts t [],r⟩ s =
      match s.language.check (t ++ ['\n']) with
      | .ok () => some (.submit t,{})
      | .error ds =>
          if ds.all (·.line == Text.lineCount t) then some (.submit t,{})
          else some (.changed,⟨parts (Text.broken t) [],r⟩) := by
  have text : (parts t []).text = t := List.append_nil t
  simp only [enter,partsEnd,text,asks,question,submit,breakLineParts]
  cases s.language.check (t ++ ['\n']) with
  | ok u => simp
  | error ds =>
    have opposite : ds.any (·.line != Text.lineCount t) = !ds.all (·.line == Text.lineCount t) := by
      simp [List.all_eq_not_any_not,bne]
    simp only [opposite]
    cases ds.all (·.line == Text.lineCount t) <;> simp

/- The diagnostic that keeps a text open stands on the line of the point exactly when one newline
follows the content. -/
theorem openDiagnosticLine (t : Text) :
    Diagnostic.lineAfterContent (t ++ ['\n']) = Text.lineCount t ↔ Text.newlinesAfterContent t = 1 := by
  rw [Diagnostic.lineAfterContent,Text.trimEndNewline,Text.lineCountParts]
  omega

def quietSurroundings (l : Language) : Surroundings Unit :=
  ⟨l,[],⟨fun k _ _ => ([],k)⟩,false⟩

theorem openInputOutcome {t : Text} (inside : Continuation.endsInside t = true)
    (question : t.head? ≠ some '?') {κ : Type} (s : Surroundings κ) (r : Recall)
    (asks : s.bypass = false) (reports : s.language.ReportsOpenEnds) :
    enter ⟨parts t [],r⟩ s =
      if Text.newlinesAfterContent t = 1 ∧
          s.language.onlyReports (t ++ ['\n']) (Text.lineCount t) = true then some (.submit t,{})
      else some (.changed,⟨parts (Text.broken t) [],r⟩) := by
  obtain ⟨ds,failed,d,member,line⟩ :=
    reports (t ++ ['\n']) (by rw [Continuation.endsInsideNewline]; exact inside)
  have only : s.language.onlyReports (t ++ ['\n']) (Text.lineCount t) =
      ds.all (·.line == Text.lineCount t) := by simp only [Language.onlyReports,failed]
  rw [enterAtEnd s r t asks question,failed,only]
  by_cases one : Text.newlinesAfterContent t = 1
  · simp only [one,true_and]
  · have elsewhere : ds.all (·.line == Text.lineCount t) = false := by
      rw [List.all_eq_false]
      refine ⟨d,member,?_⟩
      rw [line,beq_iff_eq,openDiagnosticLine]
      exact one
    simp [one,elsewhere]

theorem openInputBrokenIff {t : Text} (inside : Continuation.endsInside t = true)
    (question : t.head? ≠ some '?') :
    (∀ {κ : Type} (s : Surroundings κ) (r : Recall), s.bypass = false →
      s.language.ReportsOpenEnds →
      enter ⟨parts t [],r⟩ s =
        if Text.newlinesAfterContent t = 1 ∧
            s.language.onlyReports (t ++ ['\n']) (Text.lineCount t) = true then some (.submit t,{})
        else some (.changed,⟨parts (Text.broken t) [],r⟩)) ∧
    ((∀ {κ : Type} (s : Surroundings κ) (r : Recall), s.bypass = false →
      s.language.ReportsOpenEnds →
      enter ⟨parts t [],r⟩ s = some (.changed,⟨parts (Text.broken t) [],r⟩)) ↔
        Text.newlinesAfterContent t ≠ 1) := by
  refine ⟨fun s r => openInputOutcome inside question s r,?_,?_⟩
  · -- a language that reports nothing but the open end lets the text through
    intro always one
    have broken := always (quietSurroundings .endsOnly) {} rfl Language.endsOnlyReportsOpenEnds
    have outcome := openInputOutcome inside question (quietSurroundings .endsOnly) {} rfl
      Language.endsOnlyReportsOpenEnds
    have only : Language.endsOnly.onlyReports (t ++ ['\n']) (Text.lineCount t) = true := by
      have open_ := Continuation.endsInsideNewline t
      simp [Language.onlyReports,Language.endsOnly,open_,inside,Diagnostic.endOfInput,
        (openDiagnosticLine t).mpr one]
    rw [broken,if_pos ⟨one,only⟩] at outcome
    simp at outcome
  · intro several κ s r asks reports
    rw [openInputOutcome inside question s r asks reports]
    simp [several]

theorem openInputBrokenIffBrace :
    Continuation.endsInside ['{'] = true ∧ (['{'] : Text).head? ≠ some '?' ∧
    enter ⟨parts ['{'] [],{}⟩ (quietSurroundings .lexical) =
      some (.changed,⟨parts ['{','\n'] [],{}⟩) := by
  have inside : Continuation.endsInside ['{'] = true := by decide
  have question : (['{'] : Text).head? ≠ some '?' := by decide
  refine ⟨inside,question,?_⟩
  exact ((openInputBrokenIff inside question).2.mpr (by decide)) (quietSurroundings .lexical) {} rfl
    Language.lexicalReportsOpenEnds

theorem openInputSubmitted :
    ¬ ∀ (s : Surroundings Unit) (t : Text), s.bypass = false → t.head? ≠ some '?' →
      s.language.ReportsOpenEnds → Continuation.endsInside t = true →
      ∃ e, enter ⟨parts t [],{}⟩ s = some (.changed,e) := by
  intro always
  obtain ⟨e,changed⟩ := always (quietSurroundings .lexical) ['{','\n'] rfl (by decide)
    Language.lexicalReportsOpenEnds (by decide)
  have submitted : enter ⟨parts ['{','\n'] [],{}⟩ (quietSurroundings .lexical) =
      some (.submit ['{','\n'],{}) := by decide
  rw [submitted] at changed
  simp at changed

end Editor

end ScriptConsole
