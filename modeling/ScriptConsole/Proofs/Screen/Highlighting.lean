import ScriptConsole.Proofs.Screen.Dressing
import ScriptConsole.Proofs.Screen.Nesting

/-! The colours of a highlighted text. A terminal that reads it shows the text itself, each character in
the colour of the innermost highlight around it that has one, and is left without a colour; all that
comes between the characters is colour sequences, hidden where the text is marked. -/
namespace ScriptConsole.Colouring

def Clean (c : Char) : Prop := c ≠ Marked.hiddenStart ∧ c ≠ Marked.hiddenEnd ∧ c ≠ '\x1b'

instance (c : Char) : Decidable (Clean c) := inferInstanceAs (Decidable (_ ∧ _))

def onPalette (shown : Shown) : List (Char × Option Nat) := shown.map fun (c,colour) => (c,colour.map (·.index))

structure Displays (markers : Bool) (before : Option Escape.Colour) (t : Text) (shown : Shown)
    (after : Option Escape.Colour) : Prop where
  read : ∀ earlier, Pen.read ⟨before.map (·.index),.ground,earlier⟩ t =
    ⟨after.map (·.index),.ground,earlier ++ onPalette shown⟩
  visible : markers = true → ∀ rest,
    Marked.visibleFrom false (t ++ rest) = texts shown ++ Marked.visibleFrom false rest
  hidden : markers = true → ∀ rest, ∃ runs,
    Marked.runsFrom none (t ++ rest) = runs ++ Marked.runsFrom none rest ∧ ∀ run ∈ runs, Escape.Colours run
  bare : markers = false → ∀ rest, Escape.strip (t ++ rest) = texts shown ++ Escape.strip rest

theorem displaysNothing (markers : Bool) (colour : Option Escape.Colour) : Displays markers colour [] [] colour :=
  ⟨fun earlier => by rw [onPalette,List.map_nil,List.append_nil]; rfl,fun _ _ => rfl,fun _ _ => ⟨[],rfl,nofun⟩,
    fun _ _ => rfl⟩

theorem displaysAppend {markers : Bool} {a b c : Option Escape.Colour} {t t' : Text} {shown shown' : Shown}
    (first : Displays markers a t shown b) (second : Displays markers b t' shown' c) :
    Displays markers a (t ++ t') (shown ++ shown') c where
  read earlier := by
    have whole : onPalette (shown ++ shown') = onPalette shown ++ onPalette shown' := List.map_append
    rw [Pen.readAppend,first.read,second.read,whole,List.append_assoc]
  visible marked rest := by
    rw [List.append_assoc,first.visible marked,second.visible marked,textsAppend,List.append_assoc]
  hidden marked rest := by
    obtain ⟨runs,parts,colours⟩ := first.hidden marked (t' ++ rest)
    obtain ⟨runs',parts',colours'⟩ := second.hidden marked rest
    refine ⟨runs ++ runs',by rw [List.append_assoc,parts,parts',List.append_assoc],fun run inside => ?_⟩
    exact (List.mem_append.mp inside).elim (colours run) (colours' run)
  bare plain rest := by
    rw [List.append_assoc,first.bare plain,second.bare plain,textsAppend,List.append_assoc]

theorem displaysChar {c : Char} (clean : Clean c) (markers : Bool) (colour : Option Escape.Colour) :
    Displays markers colour [c] [(c,colour)] colour where
  read earlier := by
    obtain ⟨start,ending,escape⟩ := clean
    simp only [Pen.read,List.foldl_cons,List.foldl_nil,Pen.step,escape,start,ending,or_self,if_false]
    rfl
  visible _ rest := Marked.visibleShown clean.1 clean.2.1 rest
  hidden _ rest := ⟨[],by rw [List.singleton_append,Marked.runsFrom,if_neg clean.1]; rfl,nofun⟩
  bare _ rest := Escape.stripPlain clean.2.2 rest

theorem displaysPiece {piece : Text} (clean : ∀ c ∈ piece, Clean c) (markers : Bool)
    (colour : Option Escape.Colour) : Displays markers colour piece (piece.map (·,colour)) colour := by
  induction piece with
  | nil => exact displaysNothing markers colour
  | cons c rest ih =>
    exact displaysAppend (displaysChar (clean c List.mem_cons_self) markers colour)
      (ih fun d there => clean d (List.mem_cons_of_mem _ there))

theorem displaysDressing {params : Text} (fits : Escape.Parameters params) (markers : Bool)
    {before after : Option Escape.Colour}
    (dresses : Pen.dress (before.map (·.index)) params = after.map (·.index)) :
    Displays markers before (Marked.escape markers (Escape.dressing params)) [] after := by
  have closed := Escape.parameterUnmarked fits
  have plain (earlier : List (Char × Option Nat)) :
      Pen.read ⟨before.map (·.index),.ground,earlier⟩ (Escape.dressing params) =
        ⟨after.map (·.index),.ground,earlier⟩ := by
    rw [Escape.readDressing fits,dresses]
  cases markers with
  | false => exact ⟨fun earlier => by rw [onPalette,List.map_nil,List.append_nil]; exact plain earlier,nofun,nofun,
      fun _ => Escape.stripDressing fits⟩
  | true =>
    have parts (rest : Text) : Marked.escape true (Escape.dressing params) ++ rest =
        Marked.hiddenStart :: (Escape.dressing params ++ Marked.hiddenEnd :: rest) := by
      simp [Marked.escape]
    refine ⟨fun earlier => ?_,fun _ rest => ?_,fun _ rest => ⟨[Escape.dressing params],?_,?_⟩,nofun⟩
    · have whole := parts []
      rw [List.append_nil] at whole
      rw [whole,onPalette,List.map_nil,List.append_nil]
      show Pen.read ⟨before.map (·.index),.ground,earlier⟩ (Escape.dressing params ++ [Marked.hiddenEnd]) = _
      rw [Pen.readAppend,plain]
      rfl
    · rw [parts,Marked.visibleStart,Marked.visibleHidden closed]
      rfl
    · rw [parts,Marked.runsFrom,if_pos rfl,Marked.runsHidden closed]
      rfl
    · intro run inside
      rw [List.mem_singleton.mp inside]
      exact Escape.dressingColours fits

theorem displaysReset (markers : Bool) (colour : Option Escape.Colour) :
    Displays markers colour (Marked.escape markers Escape.resetColour) [] none :=
  displaysDressing Escape.resetParameters markers rfl

theorem displaysColour (markers : Bool) (before colour : Option Escape.Colour) :
    Displays markers before (setColour markers colour) [] (colour.or before) := by
  cases colour with
  | none => exact displaysNothing markers before
  | some colour =>
    exact displaysDressing (Escape.foregroundParameters colour) markers (Escape.foregroundDresses colour _)

/-! ## The highlights that are open -/

theorem innermostOpen (around : List Nat) : (around.map colourOf).findSome? id = inForce around := by
  rw [List.findSome?_map]
  rfl

theorem inForceWithin (index : Nat) (around : List Nat) :
    inForce (index :: around) = (colourOf index).or (inForce around) := by
  rw [inForce,List.findSome?_cons]
  cases colourOf index <;> rfl

theorem stopDisplays (markers : Bool) (index : Nat) (around : List Nat) (rest : List Event) :
    ∃ t, paintFrom markers ((index :: around).map colourOf) (.stop :: rest) =
        t ++ paintFrom markers (around.map colourOf) rest ∧
      Displays markers (inForce (index :: around)) t [] (inForce around) := by
  rw [List.map_cons,inForceWithin]
  cases colour : colourOf index with
  | none => exact ⟨[],rfl,displaysNothing markers _⟩
  | some own =>
    refine ⟨Marked.escape markers Escape.resetColour ++ setColour markers (inForce around),?_,?_⟩
    · rw [paintFrom,innermostOpen]
    · have back := displaysColour markers none (inForce around)
      rw [Option.or_none] at back
      exact displaysAppend (displaysReset markers _) back

theorem eventsDisplay {around : List Nat} {events : List Event} {shown : Shown} (shows : Shows around events shown)
    (clean : ∀ c ∈ texts shown, Clean c) (markers : Bool) (rest : List Event) :
    ∃ t, paintFrom markers (around.map colourOf) (events ++ rest) =
        t ++ paintFrom markers (around.map colourOf) rest ∧
      Displays markers (inForce around) t shown (inForce around) := by
  induction shows generalizing rest with
  | nil around => exact ⟨[],rfl,displaysNothing markers _⟩
  | @text around more shown piece later ih =>
    have own : texts (piece.map (·,inForce around) ++ shown) = piece ++ texts shown := by
      simp [texts,Function.comp_def]
    rw [own] at clean
    obtain ⟨t,painted,displays⟩ := ih (fun c inside => clean c (List.mem_append_right _ inside)) rest
    refine ⟨piece ++ t,?_,displaysAppend (displaysPiece (fun c inside => clean c (List.mem_append_left _ inside))
      markers _) displays⟩
    rw [List.cons_append,paintFrom,painted,List.append_assoc]
  | @highlight around index inner more within shown inside later ihInside ihLater =>
    rw [textsAppend] at clean
    obtain ⟨t,painted,displays⟩ := ihInside (fun c there => clean c (List.mem_append_left _ there))
      (.stop :: (more ++ rest))
    obtain ⟨t',stopped,closes⟩ := stopDisplays markers index around (more ++ rest)
    obtain ⟨t'',painted'',displays''⟩ := ihLater (fun c there => clean c (List.mem_append_right _ there)) rest
    have opens := displaysColour markers (inForce around) (colourOf index)
    rw [← inForceWithin] at opens
    refine ⟨setColour markers (colourOf index) ++ (t ++ (t' ++ t'')),?_,?_⟩
    · rw [List.cons_append,List.append_assoc,List.cons_append,paintFrom]
      rw [List.map_cons] at painted
      rw [painted,← List.map_cons,stopped,painted'']
      simp only [List.append_assoc]
    · have behind : Displays markers (inForce (index :: around)) (t' ++ t'') shown (inForce around) :=
        displaysAppend closes displays''
      have opened : Displays markers (inForce around) (setColour markers (colourOf index) ++ (t ++ (t' ++ t'')))
          ([] ++ (within ++ shown)) (inForce around) := displaysAppend opens (displaysAppend displays behind)
      exact opened

theorem nestedDisplays {events : List Event} (nested : Nested events) (clean : ∀ c ∈ sourceOf events, Clean c) :
    ∃ shown, Shows [] events shown ∧ texts shown = sourceOf events ∧
      ∀ markers, Displays markers none (paint markers events) shown none := by
  obtain ⟨shown,shows⟩ := nestedShows [] nested
  have source := showsSource shows
  rw [← source] at clean
  refine ⟨shown,shows,source,fun markers => ?_⟩
  obtain ⟨t,painted,displays⟩ := eventsDisplay shows clean markers []
  rw [List.append_nil,show paintFrom markers (List.map colourOf []) [] = [] from rfl,List.append_nil] at painted
  rw [show paint markers events = t from painted]
  exact displays

theorem displaysDresses {before after : Option Escape.Colour} {t : Text} {shown : Shown}
    (displays : Displays true before t shown after) : Marked.Dresses t (texts shown) := by
  constructor
  · have here := displays.visible rfl []
    rwa [List.append_nil,show Marked.visibleFrom false [] = [] from rfl,List.append_nil] at here
  · obtain ⟨runs,here,colours⟩ := displays.hidden rfl []
    rw [List.append_nil,show Marked.runsFrom none [] = [] from rfl,List.append_nil] at here
    rwa [here]

theorem displaysBare {before after : Option Escape.Colour} {t : Text} {shown : Shown}
    (displays : Displays false before t shown after) : Escape.strip t = texts shown := by
  have here := displays.bare rfl []
  rwa [List.append_nil,show Escape.strip [] = [] by rw [Escape.strip],List.append_nil] at here

/- The text is kept with and without marks, escapes stand in hidden runs that are colour sequences, and the
terminal has each character in the colour that is in force there and ends without one. -/
theorem paintShows {events : List Event} (nested : Nested events) (clean : ∀ c ∈ sourceOf events, Clean c) :
    ∃ shown, Shows [] events shown ∧ texts shown = sourceOf events ∧
      Marked.Dresses (paint true events) (sourceOf events) ∧
      (∀ before after, paint true events = before ++ '\x1b' :: after → Marked.hides before = true) ∧
      Escape.strip (paint false events) = sourceOf events ∧
      ∀ markers, Pen.read ⟨none,.ground,[]⟩ (paint markers events) = ⟨none,.ground,onPalette shown⟩ := by
  obtain ⟨shown,shows,source,displays⟩ := nestedDisplays nested clean
  have dresses := displaysDresses (displays true)
  have strips := displaysBare (displays false)
  rw [source] at dresses strips
  refine ⟨shown,shows,source,dresses,fun before after parts => ?_,strips,fun markers => (displays markers).read []⟩
  cases place : Marked.hides before with
  | true => rfl
  | false =>
    have there : '\x1b' ∈ Marked.visible (before ++ '\x1b' :: after) :=
      Marked.shownVisible (by decide) (by decide) before after place
    rw [← parts,dresses.visible] at there
    exact absurd rfl (clean _ there).2.2

def layered : List Event :=
  [.start 4,.text "if".toList,.start 6,.text [' '],.start 8,.text "'é'".toList,.stop,.text ['y'],.stop,.stop,
    .start 40,.text ['\n'],.stop,.start 0,.stop]

theorem paintShowsLayered : Nested layered ∧ (∀ c ∈ sourceOf layered, Clean c) ∧
    Marked.visible (paint true layered) = "if 'é'y\n".toList ∧
    Escape.strip (paint false layered) = "if 'é'y\n".toList ∧
    ∃ shown, Shows [] layered shown ∧ onPalette shown =
      [('i',some 12),('f',some 12),(' ',some 12),('\'',some 10),('é',some 10),('\'',some 10),('y',some 12),
        ('\n',none)] := by
  have nested : Nested layered := rfl
  have clean : ∀ c ∈ sourceOf layered, Clean c := by
    have each : (sourceOf layered).all (fun c => Clean c) = true := by decide
    exact fun c inside => of_decide_eq_true (List.all_eq_true.mp each c inside)
  obtain ⟨shown,shows,_,dresses,_,stripped,reads⟩ := paintShows nested clean
  refine ⟨nested,clean,dresses.visible,stripped,shown,shows,?_⟩
  have there : (Pen.read ⟨none,.ground,[]⟩ (paint true layered)).shown = onPalette shown :=
    congrArg Pen.shown (reads true)
  rw [← there]
  decide

end ScriptConsole.Colouring
