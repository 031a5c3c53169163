import ScriptConsole.Text.Offset

/-!
Regular expressions over characters, matched by derivatives: after a character, the expression is
replaced by one for what may follow it. -/
namespace ScriptConsole

inductive Regular
  | never
  | empty
  | one (fits : Char → Bool)
  | seq (first second : Regular)
  | alt (first second : Regular)
  | star (body : Regular)

namespace Regular

instance : Inhabited Regular := ⟨.never⟩

def acceptsEmpty : Regular → Bool
  | .never | .one _ => false
  | .empty | .star _ => true
  | .seq a b => acceptsEmpty a && acceptsEmpty b
  | .alt a b => acceptsEmpty a || acceptsEmpty b

def andThen : Regular → Regular → Regular
  | .never, _ => .never
  | .empty, b => b
  | a, b => .seq a b

def orElse : Regular → Regular → Regular
  | .never, b => b
  | a, .never => a
  | a, b => .alt a b

def after (c : Char) : Regular → Regular
  | .never | .empty => .never
  | .one fits => if fits c then .empty else .never
  | .seq a b =>
      if acceptsEmpty a then orElse (andThen (after c a) b) (after c b) else andThen (after c a) b
  | .alt a b => orElse (after c a) (after c b)
  | .star body => andThen (after c body) (.star body)

def longest? (expression : Regular) (text : Text) : Option Nat :=
  go expression 0 (if expression.acceptsEmpty then some 0 else none) text
where
  go (expression : Regular) (read : Nat) (best : Option Nat) : Text → Option Nat
    | [] => best
    | c :: rest =>
        match expression.after c with
        | .never => best
        | next => go next (read + 1) (if next.acceptsEmpty then some (read + 1) else best) rest

def reach (expression : Regular) : Text → Nat
  | [] => 0
  | c :: rest =>
      match expression.after c with
      | .never => 0
      | next => 1 + reach next rest

def char (c : Char) : Regular := .one (· == c)

def word (text : String) : Regular := text.toList.foldr (fun c rest => andThen (char c) rest) .empty

def concat (parts : List Regular) : Regular := parts.foldr andThen .empty

def anyOf (parts : List Regular) : Regular := parts.foldr orElse .never

def optional (body : Regular) : Regular := .alt body .empty

def plus (body : Regular) : Regular := .seq body (.star body)

def times (body : Regular) (least more : Nat) : Regular :=
  (List.replicate least body).foldr andThen ((List.range more).foldl
    (fun rest _ => optional (andThen body rest)) .empty)

def separated (body between : Regular) : Regular :=
  .seq body (.star (.seq (optional between) body))

end Regular

end ScriptConsole
