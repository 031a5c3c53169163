import ScriptConsole.Engine.Numeral
import ScriptConsole.Engine.Term
import ScriptConsole.Script.Outline
import ScriptConsole.Text.Units

/-!
Nodes of an outline as parts of terms: how the children of a node are found, and what each kind of
node is made of. -/
namespace ScriptConsole.Script.Node

def fold {α : Type} (f : Node → List (Node × α) → α) (node : Node) : α :=
  f node (node.children.attach.map fun ⟨child, _⟩ => (child, fold f child))
termination_by sizeOf node
decreasing_by
  rename_i inside
  exact Nat.lt_trans (List.sizeOf_lt_of_mem inside) (childrenSmaller node)

end ScriptConsole.Script.Node

namespace ScriptConsole.Engine
open Script (Node Source)

inductive Part
  | token
  | expression (e : Expression)
  | pattern (p : Pattern)
  | rest (p : Pattern)
  | item (i : Item)
  | items (list : List Item)
  | parameters (list : List Pattern) (rest : Option Pattern)
  | field (key : PropertyName) (p : Pattern)
  | key (k : PropertyName)
  | member (isStatic : Bool) (m : Member)
  | element (e : ClassElement)
  | elements (list : List ClassElement)
  | declarator (p : Pattern) (e : Option Expression)
  | statement (s : Statement)
  | case (test : Option Expression) (body : List Statement)
  | handler (p : Option Pattern) (body : List Statement)
  | units (list : List Nat)
  deriving Inhabited

/-- A part, and what the function around it should know of it: the names that it hoists, and whether
it uses `arguments`, `return` or `await`, or jumps out of a loop that is not there. -/
structure Read where
  part : Part
  outward : List String
  deriving Inhabited

abbrev Reading := Except String

namespace Reading

def unreadable {α : Type} : Reading α := throw "unsupported construct"

def isOptional : Expression → Bool
  | .property o optional _ => optional || isOptional o
  | .call f optional _ => optional || isOptional f
  | _ => false

def ended (e : Expression) : Expression := if isOptional e then .chain e else e

def expression : Part → Reading Expression
  | .expression e => return ended e
  | _ => unreadable

def statement : Part → Reading Statement
  | .statement s => return s
  | _ => unreadable

def pattern : Part → Reading Pattern
  | .pattern p => return p
  | .expression e =>
      match e with
      | .name _ | .superProperty _ => return .place e
      | .property .. =>
          if isOptional e then throw "invalid assignment left-hand side" else return .place e
      | _ => throw "invalid assignment left-hand side"
  | _ => throw "invalid assignment left-hand side"

def key : Part → Reading PropertyName
  | .key k => return k
  | .expression (.text s) => return .fixed s
  | .expression (.number x) => return .fixed (Numeral.text x)
  | .expression (.bigint n) => return .fixed (toString n)
  | .expression (.name x) => return .fixed x
  | _ => unreadable

end Reading

structure Shape where
  source : Source
  node : Node
  children : List (Node × Part)

namespace Shape
open Reading

def text (shape : Shape) : Text := shape.source.slice shape.node.start shape.node.stop

def hasToken (shape : Shape) (kind : String) : Bool :=
  shape.children.any fun (child, _) => !child.named && child.kind == kind

def field? (shape : Shape) (name : String) : Option (Node × Part) :=
  shape.children.find? fun (child, _) => child.field == some name

def field (shape : Shape) (name : String) : Reading Part :=
  match shape.field? name with
  | some (_, part) => return part
  | none => unreadable

def expressionIn (shape : Shape) (name : String) : Reading Expression := do
  expression (← shape.field name)

def expressionIn? (shape : Shape) (name : String) : Reading (Option Expression) :=
  match shape.field? name with
  | some (_, .expression e) => return some (ended e)
  | _ => return none

def statementIn (shape : Shape) (name : String) : Reading Statement := do
  statement (← shape.field name)

def textOf (shape : Shape) (name : String) : String :=
  match shape.field? name with
  | some (child, _) => String.ofList (shape.source.slice child.start child.stop)
  | none => ""

def expressions (shape : Shape) : List Expression :=
  shape.children.filterMap fun (_, part) => match part with
    | .expression e => some (ended e)
    | _ => none

def first (shape : Shape) : Reading Expression :=
  match shape.expressions with
  | e :: _ => return e
  | [] => unreadable

def statements (shape : Shape) : List Statement :=
  shape.children.filterMap fun (_, part) => match part with
    | .statement s => some s
    | _ => none

def separated (shape : Shape) : List (Option Part) :=
  let (found, last) := shape.children.foldl (fun (found, last) (child, part) =>
    if child.named && child.kind != "comment" then (found, some part)
    else if child.kind == "," then (found ++ [last], none)
    else (found, last)) (([] : List (Option Part)), (none : Option Part))
  found ++ (last.map some).toList

def item : Option Part → Reading Item
  | none => return .hole
  | some (.item i) => return i
  | some part => return .one (← expression part)

def escaped (digits : Text) : List Nat := Units.ofChar (Char.ofNat (Numeral.natural 16 digits))

def escape (t : Text) : List Nat :=
  match t with
  | ['\\', 'n'] => [10]
  | ['\\', 't'] => [9]
  | ['\\', 'r'] => [13]
  | ['\\', 'b'] => [8]
  | ['\\', 'v'] => [11]
  | ['\\', 'f'] => [12]
  | ['\\', '0'] => [0]
  | '\\' :: 'x' :: digits => [Numeral.natural 16 digits]
  | '\\' :: 'u' :: '{' :: digits => escaped (digits.takeWhile (· != '}'))
  | '\\' :: 'u' :: digits => [Numeral.natural 16 digits]
  | '\\' :: c :: _ =>
      if c == '\n' || c == '\r' || c == '\u2028' || c == '\u2029' then [] else Units.ofChar c
  | _ => []

def units (shape : Shape) : List Nat :=
  shape.children.flatMap fun (_, part) => match part with
    | .units list => list
    | _ => []

/- The texts of a template around its values, the last one apart, and the values. -/
def templateParts (shape : Shape) : List (List Nat × Expression) × List Nat :=
  shape.children.foldl (fun (found, current) (_, part) => match part with
    | .units list => (found, current ++ list)
    | .expression e => (found ++ [(current, e)], [])
    | _ => (found, current)) ([], [])

def template (shape : Shape) : Expression :=
  let (found, last) := shape.templateParts
  let texts := found.map (fun (list, _) => Units.toString list) ++ [Units.toString last]
  .template (texts.headD "") ((found.map (·.2)).zip texts.tail)

def number (t : Text) : Reading Expression := do
  let digits := t.filter (· != '_')
  match digits.reverse with
  | 'n' :: rest =>
      let rest := rest.reverse
      match (Numeral.marked? rest) <|> Numeral.natural? 10 rest with
      | some n => return .bigint n
      | none => unreadable
  | _ =>
      match Numeral.marked? digits, digits with
      | some n, _ => return .number (Float.ofNat n)
      | none, '0' :: c :: _ =>
          if Numeral.isDigit c then throw "octal literals are deprecated in strict mode"
          else return .number (Numeral.read (String.ofList digits))
      | none, _ => return .number (Numeral.read (String.ofList digits))

def operator? (kind : String) : Option Operator :=
  [("+", .add), ("-", .subtract), ("*", .multiply), ("/", .divide), ("%", .remainder),
    ("**", .power), ("<<", .shiftLeft), (">>", .shiftRight), (">>>", .shiftRightZero),
    ("&", .bitAnd), ("|", .bitOr), ("^", .bitXor), ("<", .less), ("<=", .lessEqual),
    (">", .greater), (">=", .greaterEqual), ("==", .equal), ("!=", .notEqual),
    ("===", .same), ("!==", .notSame), ("in", .within), ("instanceof", .instanceOf)].lookup kind

def shortcut? (kind : String) : Option Shortcut :=
  [("&&", .conjunction), ("||", .disjunction), ("??", .coalesce)].lookup kind

def unary? (kind : String) : Option UnaryOperator :=
  [("+", .plus), ("-", .minus), ("~", .bitNot), ("!", .not), ("typeof", .typeOf),
    ("void", .void)].lookup kind

def binary (shape : Shape) : Reading Expression := do
  let kind := shape.textOf "operator"
  let left ← shape.expressionIn "left"
  let right ← shape.expressionIn "right"
  match shortcut? kind, operator? kind with
  | some operator, _ => return .shortcut operator left right
  | _, some operator => return .binary operator left right
  | _, _ => unreadable

def unary (shape : Shape) : Reading Expression := do
  let kind := shape.textOf "operator"
  let operand ← shape.expressionIn "argument"
  if kind == "delete" then
    match operand with
    | .name _ => throw "cannot delete a direct reference in strict mode"
    | .chain links => return .chain (.delete links)
    | _ => return .delete operand
  else match unary? kind with
    | some operator => return .unary operator operand
    | none => unreadable

def argumentsIn (shape : Shape) : List Item :=
  match shape.field? "arguments" with
  | some (_, .items list) => list
  | _ => []

/- What a call or a property is taken of; its optional links go on. -/
def link (shape : Shape) (name : String) : Reading Expression := do
  match ← shape.field name with
  | .expression e => return e
  | _ => unreadable

def isOptionalLink (shape : Shape) : Bool := (shape.field? "optional_chain").isSome

def rawTexts (shape : Shape) (template : Node) : List String :=
  let values := template.children.filter fun child => child.kind == "template_substitution"
  let starts := (template.start + 1) :: values.map (·.stop)
  let stops := values.map (·.start) ++ [template.stop - 1]
  (starts.zip stops).map fun (start, stop) => String.ofList (shape.source.slice start stop)

def call (shape : Shape) : Reading Expression := do
  let isSuper := (shape.field? "function").any fun (child, _) => child.kind == "super"
  match shape.field? "arguments" with
  | some (_, .items list) =>
      if isSuper then return .superCall list
      else return .call (← shape.link "function") shape.isOptionalLink list
  | some (_, .expression (.template first rest)) =>
      let raw := match shape.field? "arguments" with
        | some (node, _) => shape.rawTexts node
        | none => []
      return .tagged (← shape.link "function") (first :: rest.map (·.2)) raw (rest.map (·.1))
  | _ => unreadable

def property (shape : Shape) (key : PropertyName) : Reading Expression := do
  if (shape.field? "object").any fun (child, _) => child.kind == "super" then
    return .superProperty key
  else return .property (← shape.link "object") shape.isOptionalLink key

def assignment (shape : Shape) : Reading Expression := do
  return .assign (← pattern (← shape.field "left")) (← shape.expressionIn "right")

def augmented (shape : Shape) : Reading Expression := do
  let kind := String.ofList (shape.textOf "operator").toList.dropLast
  let place ← shape.expressionIn "left"
  discard (pattern (.expression place))
  let value ← shape.expressionIn "right"
  match shortcut? kind, operator? kind with
  | some operator, _ => return .assignUnless operator place value
  | _, some operator => return .assignWith operator place value
  | _, _ => unreadable

def update (shape : Shape) : Reading Expression := do
  let place ← shape.expressionIn "argument"
  discard (pattern (.expression place))
  let after := (shape.children.head?).any fun (child, _) => !child.named
  return .update after (if shape.textOf "operator" == "++" then 1 else -1) place

def checkNames (statements : List Statement) : Reading Unit := do
  let names := statements.flatMap fun s => match s with
    | .declare .hoisted _ => []
    | .declare _ items => items.flatMap fun (p, _) => p.names
    | .classOf (.mk (some name) ..) => [name]
    | _ => []
  if names.eraseDups.length != names.length then
    throw "invalid redefinition of lexical identifier"

def bodyOf : Part → Reading (List Statement)
  | .statement (.block body) => return body
  | .expression e => return [.answer (some (ended e))]
  | _ => unreadable

def checkJumps (outward : List String) : Reading Unit := do
  if outward.contains "break" then throw "break must be inside loop or switch"
  if outward.contains "continue" then throw "continue must be inside loop"

def lambda (shape : Shape) (role : Role) (outward : List String) :
    Reading (Lambda × List String) := do
  checkJumps outward
  if outward.contains "await" && styleOf shape != .promising then throw "expecting ';'"
  let body ← bodyOf (← shape.field "body")
  let (parameters, rest) ← match shape.field? "parameters", shape.field? "parameter" with
    | some (_, .parameters list rest), _ => pure (list, rest)
    | _, some (_, part) => return ← (do
        let p ← pattern part
        pure (.mk "" role (styleOf shape) [p] none body (hoistedOf outward) (sourceOf shape),
          outward.filter fun name => role == .arrow && name == "arguments"))
    | _, _ => unreadable
  let name := if role == .plain then shape.textOf "name" else ""
  return (.mk name role (styleOf shape) parameters rest body (hoistedOf outward)
    (sourceOf shape), outward.filter fun name => role == .arrow && name == "arguments")
where
  styleOf (shape : Shape) : Style :=
    if shape.hasToken "*" then .yielding
    else if shape.hasToken "async" then .promising else .plain
  sourceOf (shape : Shape) : String := String.ofList shape.text
  hoistedOf (outward : List String) : List String :=
    (outward.filter fun name =>
      name != "return" && name != "await" && !(role == .arrow && name == "arguments")).eraseDups

def parameters (shape : Shape) : Reading Part := do
  let list ← shape.separated.filterMapM fun part => match part with
    | some (.rest _) | none => return none
    | some part => return some (← pattern part)
  let rest := shape.separated.findSome? fun part => match part with
    | some (.rest p) => some p
    | _ => none
  return .parameters list rest

def listPattern (shape : Shape) : Reading Pattern := do
  let items ← shape.separated.filterMapM fun part => match part with
    | some (.rest _) => return none
    | some part => return some (some (← pattern part))
    | none => return some none
  let rest := shape.separated.findSome? fun part => match part with
    | some (.rest p) => some p
    | _ => none
  return .list items rest

def recordPattern (shape : Shape) : Pattern :=
  .record
    (shape.children.filterMap fun (_, part) => match part with
      | .field key p => some (key, p)
      | _ => none)
    (shape.children.findSome? fun (_, part) => match part with
      | .rest p => some p
      | _ => none)

def fieldOfName (x : String) : Part := .field (.fixed x) (.place (.name x))

def members (shape : Shape) : List Member :=
  shape.children.filterMap fun (_, part) => match part with
    | .member _ m => some m
    | .item (.spread e) => some (.spread e)
    | .expression (.name x) => some (.field (.fixed x) (.name x))
    | _ => none

def method (shape : Shape) (outward : List String) : Reading Part := do
  let (f, _) ← shape.lambda .method outward
  let kind : MemberKind :=
    if shape.hasToken "get" then .getter else if shape.hasToken "set" then .setter else .method
  return .member (shape.hasToken "static") (.method kind (← key (← shape.field "name")) f)

def classElements (shape : Shape) : List ClassElement :=
  shape.children.filterMap fun (_, part) => match part with
    | .member isStatic m => some (.member isStatic m)
    | .element e => some e
    | _ => none

def initial (body : List Statement) : Lambda := .mk "" .method .plain [] none body [] ""

def classTerm (shape : Shape) : Reading ClassTerm := do
  let name := shape.textOf "name"
  let parent := shape.children.findSome? fun (child, part) => match part with
    | .expression e => if child.kind == "class_heritage" then some e else none
    | _ => none
  let elements := match shape.field? "body" with
    | some (_, .elements list) => list
    | _ => []
  return .mk (if name.isEmpty then none else some name) parent elements (String.ofList shape.text)

def declaration (shape : Shape) (kind : Declaring) : Reading Statement := do
  let items := shape.children.filterMap fun (_, part) => match part with
    | .declarator p e => some (p, e)
    | _ => none
  if kind == .constant && items.any (·.2.isNone) then
    throw "missing initializer for const variable"
  return .declare kind items

def declaring? (word : String) : Option Declaring :=
  [("var", .hoisted), ("let", .changeable), ("const", .constant)].lookup word

def braced (object : Node) (members : List Member) : Reading Statement :=
  let isShort (node : Node) : Bool := node.kind == "shorthand_property_identifier"
  let parts := object.children.filter fun child => child.named && child.kind != "comment"
  match members with
  | [] => return .block []
  | [.field (.fixed x) e] =>
      if parts.all isShort then return .block [.evaluate e] else return .labelled x (.evaluate e)
  | .field _ e :: rest =>
      if parts.all isShort then
        return .block [.evaluate (rest.foldl (fun e m => match m with
          | .field _ next => .sequence e next
          | _ => e) e)]
      else throw "expecting ';'"
  | _ => throw "expecting ';'"

end Shape

end ScriptConsole.Engine
