import ScriptConsole.Target.Channel
import ScriptConsole.Text.Class
import ScriptConsole.Json.Parser

/-!
Completion answered by the target: a snippet lists the property names of the object before the
dot, and those that start with the word are the candidates. -/
namespace ScriptConsole.Names

def trimDots (t : Text) : Text := ((t.dropWhile (· == '.')).reverse.dropWhile (· == '.')).reverse

def objectExpression? (context : Text) : Option Text :=
  match context.reverse with
  | '.' :: before =>
      let chain := trimDots (before.takeWhile fun c => Text.isWord c || c == '.').reverse
      if chain.isEmpty then none else some chain
  | _ => none

def snippet (expression : Text) : Text :=
  "(function()\x7btry\x7bvar o=(".toList ++ expression ++
    ("),s=\x7b\x7d;for(;o!=null;o=Object.getPrototypeOf(o))" ++
     "Object.getOwnPropertyNames(o).forEach(function(k)\x7bs[k]=1\x7d);" ++
     "return Object.keys(s)\x7dcatch(e)\x7breturn []\x7d\x7d)()").toList

/- The candidates for a word; a failed exchange has none. -/
def complete {σ : Type} (c : Channel σ) (signals : Signals) (context word : Text) :
    List Text × Channel σ × Signals :=
  let expression := (objectExpression? context).getD "globalThis".toList
  let (reply, c, signals) := c.send signals (snippet expression)
  let names := match reply with
    | .ok (.value json) => (Json.parseStrings? json).getD []
    | _ => []
  (names.filter (Text.startsWith · word), c, signals)

end ScriptConsole.Names
