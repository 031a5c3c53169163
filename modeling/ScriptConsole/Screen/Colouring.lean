import ScriptConsole.Screen.Marked

/-!
Colouring a text from a stream of events: pieces of the text, and starts and ends of highlights
around them. The colour at each character is that of the innermost highlight around it that has
one. -/
namespace ScriptConsole

inductive Category
  | comment | constant | constructor | function | keyword | number | operator | property | string
  | variable
  deriving DecidableEq, Repr

namespace Category

def all : List Category :=
  [.comment, .constant, .constructor, .function, .keyword, .number, .operator, .property, .string,
    .variable]

def ofIndex? (index : Nat) : Option Category := all[index]?

def colour? : Category → Option Escape.Colour
  | .comment => some .darkGrey
  | .constant | .number => some .magenta
  | .constructor => some .yellow
  | .function => some .darkYellow
  | .keyword => some .blue
  | .property => some .cyan
  | .string => some .green
  | .operator | .variable => none

end Category

namespace Colouring

inductive Event
  | text (piece : Text)
  | start (index : Nat)
  | stop
  deriving DecidableEq, Repr

def colourOf (index : Nat) : Option Escape.Colour :=
  (Category.ofIndex? index).bind Category.colour?

/- The escape that sets a colour; none for none. -/
def setColour (markers : Bool) : Option Escape.Colour → Text
  | some colour => Marked.escape markers (Escape.foreground colour)
  | none => []

/- The coloured text of the events. `open_` holds the colours of the highlights that are open, the
innermost first. -/
def paintFrom (markers : Bool) (open_ : List (Option Escape.Colour)) : List Event → Text
  | [] => if open_.any (·.isSome) then Marked.escape markers Escape.resetColour else []
  | .text piece :: rest => piece ++ paintFrom markers open_ rest
  | .start index :: rest =>
      setColour markers (colourOf index) ++ paintFrom markers (colourOf index :: open_) rest
  | .stop :: rest =>
      match open_ with
      | some _ :: outer =>
          Marked.escape markers Escape.resetColour ++ setColour markers (outer.findSome? id) ++
            paintFrom markers outer rest
      | none :: outer => paintFrom markers outer rest
      | [] => paintFrom markers [] rest

def paint (markers : Bool) (events : List Event) : Text := paintFrom markers [] events

end Colouring

end ScriptConsole
