import ScriptConsole.Proofs.Screen.Replaying

/-! The way home after a change of width. The display has kept the old point but not the old text, and it
looks for its cursor at the old point of the new text. So it comes home from where the last redisplay has
parked it if the two texts agree up to that point, and else only if both places are in the same row. -/
namespace ScriptConsole

namespace Display

theorem verticalLimit {rows : Int} (low : 0 ≤ rows) :
    Escape.vertical (0 - rows) = Escape.vertical (0 - min rows Escape.limit) := by
  have limit : (Escape.limit : Int) = 65535 := rfl
  unfold Escape.vertical
  by_cases none : rows = 0
  · subst none
    rfl
  · have up : 0 - rows < 0 ∧ 0 - min rows Escape.limit < 0 := by omega
    have count : min (0 - rows).natAbs Escape.limit =
        min (0 - min rows Escape.limit).natAbs Escape.limit := by omega
    rw [if_pos up.1,if_pos up.2,count]

theorem passageNilIff {p : Position} (low : 0 ≤ p.row) (few : p.row < Position.rowEnd) :
    passage p .origin = [] ↔ p = .origin := by
  unfold passage
  rw [Position.heldExact low few]
  constructor
  · intro nothing
    split at nothing
    · rename_i here
      exact here.symm
    · exact absurd (List.append_eq_nil_iff.mp nothing).2 nofun
  · rintro rfl
    rfl

theorem passageAway {p : Position} (low : 0 ≤ p.row) (few : p.row < Position.rowEnd) (away : p ≠ .origin) :
    passage p .origin = Escape.vertical (0 - min p.row Escape.limit) ++ Escape.column 0 := by
  unfold passage
  rw [Position.originHeld,Position.heldExact low few,if_neg (Ne.symm away),← verticalLimit low]
  show Escape.vertical (Position.wrap (0 - p.row)) ++ _ = _
  rw [Position.wrapExact (by omega) (by omega)]
  rfl

/- A way home tells whether there is a way to go, and how many rows up as far as one control sequence
counts; the column it comes from does not show. -/
theorem passageHomeIff {p q : Position} (low : 0 ≤ p.row) (few : p.row < Position.rowEnd) (low' : 0 ≤ q.row)
    (few' : q.row < Position.rowEnd) :
    passage p .origin = passage q .origin ↔
      (p = .origin ↔ q = .origin) ∧ min p.row Escape.limit = min q.row Escape.limit := by
  constructor
  · intro same
    refine ⟨by rw [← passageNilIff low few,same,passageNilIff low' few'],?_⟩
    have idle : Terminal.Idle ⟨.origin,false,fun _ => .blank,.ground⟩ := ⟨rfl,rfl⟩
    have climbs := @passageClimbs 1 _ idle p low few
    rw [same,passageClimbs idle low' few'] at climbs
    omega
  · rintro ⟨home,rows⟩
    by_cases here : p = .origin
    · rw [here,home.mp here]
    · rw [passageAway low few here,passageAway low' few' fun same => here (home.mpr same),rows]

/- A redisplay in another width comes home from the old point of the new text, or from the end of it when
it has no such point. That is the way from where the cursor is if both are the same number of rows down. -/
theorem resizedHomeIff (d : Display) (prompt marked' : Text) {marked before after : Text} {width width' : Nat}
    (shown : Marked.visible marked = before ++ after) (resized : width ≠ width') :
    let kept := (d.redisplay prompt marked (Text.size before) width).1
    let left := Layout.walk width' .origin (Marked.visible prompt ++ before)
    let sought := Layout.stand width' (Layout.walk width' .origin (Marked.visible prompt))
      (Marked.visible marked') (Text.size before)
    kept.current = Layout.walk width .origin (Marked.visible prompt ++ before) ∧
    (∀ point', (kept.redisplay prompt marked' point' width').2.2 =
      passage sought .origin ++ (redisplay {} prompt marked' point' width').2.2) ∧
    (sought.row < Position.rowEnd → left.row < Position.rowEnd → (passage sought .origin = passage left .origin ↔
      (sought = .origin ↔ left = .origin) ∧ min sought.row Escape.limit = min left.row Escape.limit)) ∧
    (before <+: Marked.visible marked' → passage sought .origin = passage left .origin) := by
  intro kept left sought
  obtain ⟨_,keeps⟩ := d.redisplayParks prompt marked (Text.size before) width
  have parked : kept.current = Layout.stand width (Layout.walk width .origin (Marked.visible prompt))
      (Marked.visible marked) (Text.size before) := congrArg Display.current keeps
  have painted : kept.width = some width := congrArg Display.width keeps
  have point : kept.point = Text.size before := congrArg Display.point keeps
  have found : (kept.resync prompt marked' width').current = sought := by
    rw [resizedResync painted resized,point]
  have first : left = Layout.walk width' (Layout.walk width' .origin (Marked.visible prompt)) before :=
    Layout.walkAppend ..
  refine ⟨?_,fun point' => by rw [redisplayParts,homing,found],?_,?_⟩
  · rw [parked,shown,Layout.standAppend,Layout.walkAppend]
  · intro few few'
    have prompted := Layout.walkDescends width' .origin (Marked.visible prompt)
    exact passageHomeIff (Int.le_trans prompted (Layout.standDescends ..)) few (Layout.walkDescends ..) few'
  · rintro ⟨after',whole⟩
    have same : sought = left := by
      rw [first,← Layout.standAppend width' _ before after',whole]
    rw [same]

theorem resizedHomeTyping : Marked.visible "abcdef".toList = "abcdef".toList ++ [] ∧ 40 ≠ 10 ∧
    passage (Layout.stand 10 (Layout.walk 10 .origin (Marked.visible "cy# ".toList))
        (Marked.visible "abcdefg".toList) (Text.size "abcdef".toList)) .origin =
      passage (Layout.walk 10 .origin (Marked.visible "cy# ".toList ++ "abcdef".toList)) .origin := by
  have shown : Marked.visible "abcdef".toList = "abcdef".toList ++ [] := by decide
  have longer : "abcdef".toList <+: Marked.visible "abcdefg".toList := ⟨['g'],by decide⟩
  exact ⟨shown,by decide,
    (resizedHomeIff {} "cy# ".toList "abcdefg".toList shown (by decide : 40 ≠ 10)).2.2.2 longer⟩

theorem resizedHomeStays : ¬ ∀ (d : Display) (prompt marked marked' before after before' after' : Text)
    (width width' : Nat), Marked.visible marked = before ++ after → Marked.visible marked' = before' ++ after' →
    width ≠ width' → ∀ home,
    ((d.redisplay prompt marked (Text.size before) width).1.redisplay prompt marked'
        (Text.size before') width').2.2 =
      home ++ (redisplay {} prompt marked' (Text.size before') width').2.2 →
    home = passage (Layout.walk width' .origin (Marked.visible prompt ++ before)) .origin := by
  intro always
  have parts := redisplayParts (redisplay {} "cy# ".toList "abcdef".toList 6 40).1
    "cy# ".toList "abcde".toList 5 10
  have home := always {} "cy# ".toList "abcdef".toList "abcde".toList "abcdef".toList [] "abcde".toList []
    40 10 (by decide) (by decide) (by decide) _ (congrArg (fun drawn => drawn.2.2) parts)
  exact absurd home (by decide)

end Display

end ScriptConsole
