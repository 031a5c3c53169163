import ScriptConsole.Proofs.Screen.Replaying

/-! The row in which a display begins to paint. After a reset the way home stays in the row of the
cursor, unless the width is not that of the last redisplay and the prompt takes more than one row of the
new width. -/
namespace ScriptConsole

namespace Display

/-! ## After a reset -/

def Unresized (last : Option Nat) (width : Nat) : Prop := ∀ old, last = some old → old = width

instance (last : Option Nat) (width : Nat) : Decidable (Unresized last width) :=
  inferInstanceAs (Decidable (∀ _, _ → _))

structure Anchored (d : Display) : Prop where
  current : d.current = .origin
  point : d.point = 0

/- Only a display that has painted in another width looks for its cursor, and it finds it behind the
prompt, where it does not stand any more. -/
theorem anchoredResync {d : Display} (anchored : d.Anchored) (prompt marked : Text) (width : Nat) :
    (d.resync prompt marked width).current =
      if Unresized d.width width then .origin
      else Layout.walk width .origin (Marked.visible prompt) := by
  by_cases kept : Unresized d.width width
  · rw [if_pos kept,redisplaySame kept]
    exact anchored.current
  · obtain ⟨old,painted,resized⟩ : ∃ old, d.width = some old ∧ old ≠ width := by
      simpa only [Unresized,Classical.not_forall,exists_prop] using kept
    rw [if_neg kept,resizedResync painted resized,anchored.point]
    exact Layout.standAppend width _ [] (Marked.visible marked)

theorem anchoredClimbs {d : Display} (anchored : d.Anchored) (prompt marked : Text) (width columns : Nat)
    {t : Terminal} (idle : t.Idle) (few : (Layout.walk width .origin (Marked.visible prompt)).row < Position.rowEnd) :
    (t.feed columns (d.homing prompt marked width)).cursor.row =
      t.cursor.row - if Unresized d.width width then 0
        else min (Layout.walk width .origin (Marked.visible prompt)).row Escape.limit := by
  rw [homing,anchoredResync anchored]
  split
  · exact passageClimbs (p := .origin) idle (Int.le_refl 0) (by decide)
  · exact passageClimbs idle (Layout.walkDescends width .origin _) few

/-! ## Over any sequence of uses -/

inductive Step
  | redisplay (prompt marked : Text) (point width : Nat)
  | leave
  | reset
  deriving DecidableEq, Repr

def Step.perform (d : Display) : Step → Display
  | .redisplay prompt marked point width => (d.redisplay prompt marked point width).1
  | .leave => d.leave.1
  | .reset => d.reset

def Step.width? : Step → Option Nat
  | .redisplay _ _ _ width => some width
  | .leave | .reset => none

def performed (steps : List Step) : Display := steps.foldl Step.perform {}

def lastWidth (steps : List Step) : Option Nat :=
  steps.foldl (fun last step => step.width?.or last) none

def Anchors (steps : List Step) : Prop := ∀ step, steps.getLast? = some step → step = .leave ∨ step = .reset

theorem performWidth (d : Display) (step : Step) : (step.perform d).width = step.width?.or d.width := by
  cases step with
  | redisplay prompt marked point width =>
    rw [Step.perform,redisplayParts]
    simp only [redisplay,moveToPasses]
    rfl
  | leave =>
    rw [Step.perform,leave,moveToPasses]
    rfl
  | reset => rfl

theorem performedWidth (steps : List Step) : (performed steps).width = lastWidth steps := by
  have all (d : Display) : (steps.foldl Step.perform d).width =
      steps.foldl (fun last step => step.width?.or last) d.width := by
    induction steps generalizing d with
    | nil => rfl
    | cons step rest ih => rw [List.foldl_cons,List.foldl_cons,ih,performWidth]
  exact all {}

theorem anchorsAnchored {steps : List Step} (anchors : Anchors steps) : (performed steps).Anchored := by
  rcases List.eq_nil_or_concat steps with rfl | ⟨front,step,rfl⟩
  · exact ⟨rfl,rfl⟩
  · rw [List.concat_eq_append] at anchors ⊢
    rw [performed,List.foldl_append,List.foldl_cons,List.foldl_nil]
    rcases anchors step List.getLast?_concat with rfl | rfl
    · rw [Step.perform,leave,moveToPasses]
      exact ⟨rfl,rfl⟩
    · exact ⟨rfl,rfl⟩

/- It begins in the row of the cursor except when the last redisplay was in another width and the prompt
does not stay in one row of the new one: then it begins as many rows higher as the prompt goes down. -/
theorem startsInRowIff {steps : List Step} (anchors : Anchors steps) (prompt marked : Text) (point width : Nat) :
    ((performed steps).redisplay prompt marked point width).2.2 =
        (performed steps).homing prompt marked width ++ (redisplay {} prompt marked point width).2.2 ∧
    ((Layout.walk width .origin (Marked.visible prompt)).row < Position.rowEnd →
      (∀ {columns : Nat} {t : Terminal}, t.Idle →
        (t.feed columns ((performed steps).homing prompt marked width)).cursor.row =
          t.cursor.row - if Unresized (lastWidth steps) width then 0
            else min (Layout.walk width .origin (Marked.visible prompt)).row Escape.limit) ∧
      ((∀ {columns : Nat} {t : Terminal}, t.Idle →
        (t.feed columns ((performed steps).homing prompt marked width)).cursor.row = t.cursor.row) ↔
          Unresized (lastWidth steps) width ∨
            (Layout.walk width .origin (Marked.visible prompt)).row = 0)) := by
  refine ⟨by rw [redisplayParts],fun few => ?_⟩
  have climbs (columns : Nat) {t : Terminal} (idle : t.Idle) :=
    anchoredClimbs (anchorsAnchored anchors) prompt marked width columns idle few
  have low : 0 ≤ (Layout.walk width .origin (Marked.visible prompt)).row :=
    Layout.walkDescends width .origin _
  have limit : (Escape.limit : Int) = 65535 := rfl
  rw [performedWidth] at climbs
  refine ⟨fun idle => climbs _ idle,?_,?_⟩
  · intro stays
    have idle : Terminal.Idle ⟨.origin,false,.empty,.ground⟩ := ⟨rfl,rfl⟩
    have climb := (climbs 1 idle).symm.trans (stays idle)
    by_cases kept : Unresized (lastWidth steps) width
    · exact .inl kept
    · rw [if_neg kept] at climb
      exact .inr (by omega)
  · intro stays columns t idle
    rw [climbs columns idle]
    rcases stays with kept | row
    · rw [if_pos kept,Int.sub_zero]
    · rw [row]
      split <;> omega

def narrowing : List Step := [.redisplay "cy# ".toList ['1'] 1 40,.leave]

theorem narrowingAnchors : Anchors narrowing := fun _ last => .inl (Option.some.inj last).symm

theorem startsInRowNarrowed : Anchors narrowing ∧ ∀ {columns : Nat} {t : Terminal}, t.Idle →
    (t.feed columns ((performed narrowing).homing "cy# ".toList [] 20)).cursor.row = t.cursor.row :=
  ⟨narrowingAnchors,
    ((startsInRowIff narrowingAnchors "cy# ".toList [] 0 20).2 (by decide)).2.mpr (.inr (by decide))⟩

theorem resizedPromptClimbs : ¬ ∀ steps, Anchors steps → ∀ prompt marked point width home,
    ((performed steps).redisplay prompt marked point width).2.2 =
      home ++ (redisplay {} prompt marked point width).2.2 →
    ∀ columns (t : Terminal), t.Idle → (t.feed columns home).cursor.row = t.cursor.row := by
  intro always
  have parts := redisplayParts (performed narrowing) "cy# ".toList [] 0 3
  have stays := always narrowing narrowingAnchors "cy# ".toList [] 0 3 _
    (congrArg (fun drawn => drawn.2.2) parts) 3 ⟨⟨7,0⟩,false,.empty,.ground⟩ ⟨rfl,rfl⟩
  have climbs : (Terminal.feed 3 ⟨⟨7,0⟩,false,.empty,.ground⟩
      ((performed narrowing).homing "cy# ".toList [] 3)).cursor.row = 6 := by decide
  rw [climbs] at stays
  contradiction

end Display

end ScriptConsole
