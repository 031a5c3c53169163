import ScriptConsole.Screen.Escape

/-!
Text with hidden runs: what stands between U+0001 and U+0002 is sent to the terminal but takes no
place on the screen. -/
namespace ScriptConsole.Marked

def hiddenStart : Char := '\x01'

def hiddenEnd : Char := '\x02'

/- The visible text; `hidden` tells whether a run is open. -/
def visibleFrom (hidden : Bool) : Text → Text
  | [] => []
  | c :: rest =>
      if c = hiddenStart then visibleFrom true rest
      else if c = hiddenEnd then visibleFrom false rest
      else if hidden then visibleFrom true rest
      else c :: visibleFrom false rest

def visible (t : Text) : Text := visibleFrom false t

def escape (markers : Bool) (sequence : Text) : Text :=
  if markers then hiddenStart :: (sequence ++ [hiddenEnd]) else sequence

end ScriptConsole.Marked

namespace ScriptConsole

/- Colours a source; with markers every escape is a hidden run. -/
structure Highlighter where
  highlight : (source : Text) → (markers : Bool) → Text

def Highlighter.plain : Highlighter := ⟨fun source _ => source⟩

/- Colours runs of ASCII digits; `open_` tells whether a run is open. -/
def Highlighter.digitsFrom (markers : Bool) (open_ : Bool) : Text → Text
  | [] => if open_ then Marked.escape markers Escape.resetColour else []
  | c :: rest =>
      let isDigit := '0' ≤ c && c ≤ '9'
      if isDigit && !open_ then
        Marked.escape markers "\x1b[35m".toList ++ c :: digitsFrom markers true rest
      else if !isDigit && open_ then
        Marked.escape markers Escape.resetColour ++ c :: digitsFrom markers false rest
      else c :: digitsFrom markers open_ rest

def Highlighter.digits : Highlighter := ⟨fun source markers => digitsFrom markers false source⟩

end ScriptConsole
