import ScriptConsole.Text.Offset

/-!
Completion of the word before the point: which word that is, and what a list of candidates makes
of it. -/
namespace ScriptConsole.Completion

def wordBreaks : Text := " \t\n\"\\'`@><=;|&{()}.:[]".toList

def isBreak (c : Char) : Bool := wordBreaks.contains c

def lastWord (before : Text) : Text := (before.reverse.takeWhile (!isBreak ·)).reverse

def wordStart? (t : Text) (point : Nat) : Option Nat :=
  (Text.split? t point).map fun (before, _) => point - Text.size (lastWord before)

def commonPrefix : List Text → Text
  | [] => []
  | first :: rest => rest.foldl Text.sharedLead first

inductive Answer
  | nothing
  | insert (rest : Text)
  | list (candidates : List Text)
  deriving DecidableEq, Repr

def distinct : List Text → List Text
  | a :: b :: rest => if a = b then distinct (b :: rest) else a :: distinct (b :: rest)
  | short => short

def matching (word : Text) (candidates : List Text) : List Text :=
  distinct ((candidates.filter (Text.startsWith · word)).mergeSort Text.le)

/- One match, or several with more in common than the word, are inserted; otherwise several are
listed. -/
def resolve (word : Text) (candidates : List Text) : Answer :=
  match matching word candidates with
  | [] => .nothing
  | [only] => .insert (only.drop word.length)
  | several =>
      let shared := commonPrefix several
      if word.length < shared.length then .insert (shared.drop word.length) else .list several

end ScriptConsole.Completion
