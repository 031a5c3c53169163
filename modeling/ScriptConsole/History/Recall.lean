import ScriptConsole.Text.Offset

/-!
Walking through earlier entries from the prompt. The text being typed is put aside on the first
step back and returns when the walk leaves the newest entry. -/
namespace ScriptConsole

structure Recall where
  -- The entry shown; none while the typed text is.
  index : Option Nat := none
  aside : Option Text := none
  deriving DecidableEq, Repr

namespace Recall

def previous (r : Recall) (entries : List Text) (current : Text) : Option Text × Recall :=
  match r.index.getD entries.length with
  | 0 => (none, r)
  | index + 1 =>
      let aside := if index + 1 = entries.length then some current else r.aside
      (entries[index]?, ⟨some index, aside⟩)

/- The entry after the one shown; after the newest, the text put aside. -/
def next (r : Recall) (entries : List Text) : Option Text × Recall :=
  match r.index with
  | none => (none, r)
  | some index =>
      if entries.length ≤ index + 1 then (some (r.aside.getD []), ⟨none, none⟩)
      else (entries[index + 1]?, { r with index := some (index + 1) })

end Recall

end ScriptConsole
