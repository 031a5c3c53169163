import ScriptConsole.Engine.Shape
import ScriptConsole.Script.Stop
import ScriptConsole.Text.Class

/-!
Terms of outlines. Every node is read as a part, given what its children were read as; a script that
cannot be read has a message. -/
namespace ScriptConsole.Engine
open Script (Node Source Tongue)

namespace Shape
open Reading

/- Expressions, by the kind of their node; none for another kind. -/
def expressionPart? (shape : Shape) (outward : List String) :
    String → Option (Reading (Part × List String))
  | "identifier" =>
      let x := String.ofList shape.text
      some (return (.expression (.name x), if x == "arguments" then [x] else []))
  | "undefined" => plain (return .undefined)
  | "null" => plain (return .null)
  | "true" => plain (return .boolean true)
  | "false" => plain (return .boolean false)
  | "this" => plain (return .self)
  | "super" => plain (return .undefined)
  | "meta_property" => plain (return .newTarget)
  | "number" => plain (number shape.text)
  | "string" => plain (return .text (Units.toString shape.units))
  | "template_string" => plain (return shape.template)
  | "template_substitution" | "parenthesized_expression" | "class_heritage" => plain shape.first
  | "regex" => plain (return .matcher (shape.textOf "pattern") (shape.textOf "flags"))
  | "array" => plain (return .list (← shape.separated.mapM item))
  | "object" => plain (return .record shape.members)
  | "binary_expression" => plain shape.binary
  | "unary_expression" => plain shape.unary
  | "update_expression" => plain shape.update
  | "assignment_expression" => plain shape.assignment
  | "augmented_assignment_expression" => plain shape.augmented
  | "ternary_expression" => plain (do
      let test ← shape.expressionIn "condition"
      return .conditional test (← shape.expressionIn "consequence")
        (← shape.expressionIn "alternative"))
  | "sequence_expression" => plain (match shape.expressions with
      | e :: rest => return rest.foldl .sequence e
      | [] => unreadable)
  | "call_expression" => plain shape.call
  | "new_expression" =>
      plain (return .construct (← shape.expressionIn "constructor") shape.argumentsIn)
  | "member_expression" => plain (do shape.property (← key (← shape.field "property")))
  | "subscript_expression" => plain (do
      shape.property (.computed (← shape.expressionIn "index")))
  | "await_expression" => some (do
      return (.expression (.await (← shape.first)), outward ++ ["await"]))
  | "yield_expression" =>
      plain (return .yield (shape.hasToken "*") (shape.expressions.headD .undefined))
  | "function_expression" | "generator_function" => some (do
      let (f, outward) ← shape.lambda .plain outward
      return (.expression (.function f), outward))
  | "arrow_function" => some (do
      let (f, outward) ← shape.lambda .arrow outward
      return (.expression (.function f), outward))
  | "class" => plain (return .classOf (← shape.classTerm))
  | _ => none
where
  plain (e : Reading Expression) : Option (Reading (Part × List String)) :=
    some (return (.expression (← e), outward))

def innerPart? (shape : Shape) (outward : List String) :
    String → Option (Reading (Part × List String))
  | "string_fragment" | "html_character_reference" =>
      plain (return .units (shape.text.flatMap Units.ofChar))
  | "escape_sequence" => plain (return .units (escape shape.text))
  | "property_identifier" | "statement_identifier" =>
      plain (return .key (.fixed (String.ofList shape.text)))
  | "private_property_identifier" => plain (return .key (.hidden (String.ofList shape.text)))
  | "computed_property_name" => plain (return .key (.computed (← shape.first)))
  | "shorthand_property_identifier" =>
      plain (return .expression (.name (String.ofList shape.text)))
  | "shorthand_property_identifier_pattern" =>
      plain (return fieldOfName (String.ofList shape.text))
  | "pair" => plain (do
      let key ← key (← shape.field "key")
      return .member false (.field key (← shape.expressionIn "value")))
  | "spread_element" => plain (return .item (.spread (← shape.first)))
  | "arguments" => plain (return .items (← shape.separated.mapM item))
  | "formal_parameters" => plain shape.parameters
  | "array_pattern" => plain (return .pattern (← shape.listPattern))
  | "object_pattern" => plain (return .pattern shape.recordPattern)
  | "rest_pattern" => plain (match shape.children.find? fun (child, _) => child.named with
      | some (_, part) => return .rest (← pattern part)
      | none => unreadable)
  | "assignment_pattern" => plain (do
      let place ← pattern (← shape.field "left")
      return .pattern (.orElse place (← shape.expressionIn "right")))
  | "object_assignment_pattern" => plain (do
      let e ← shape.expressionIn "right"
      match ← shape.field "left" with
      | .field key p => return .field key (.orElse p e)
      | _ => unreadable)
  | "pair_pattern" => plain (do
      let key ← key (← shape.field "key")
      return .field key (← pattern (← shape.field "value")))
  | "method_definition" => some (return (← shape.method outward, []))
  | "field_definition" => plain (do
      let e ← shape.expressionIn? "value"
      let value := e.map fun e => initial [.answer (some e)]
      return .element (.field (shape.hasToken "static") (← key (← shape.field "property")) value))
  | "class_static_block" => plain (do
      return .element (.block (initial (← bodyOf (← shape.field "body")))))
  | "class_body" => plain (return .elements shape.classElements)
  | _ => none
where
  plain (part : Reading Part) : Option (Reading (Part × List String)) :=
    some (return (← part, outward))

def each (shape : Shape) (outward : List String) : Reading (Part × List String) := do
  let place ← pattern (← shape.field "left")
  let kind := declaring? (shape.textOf "kind")
  let s := Statement.each (shape.textOf "operator" == "in") kind place
    (← shape.expressionIn "right") (← shape.statementIn "body")
  return (.statement s, outward ++ if kind == some .hoisted then place.names else [])

def loop (shape : Shape) (late : Bool) : Reading Statement := do
  let test ← shape.expressionIn "condition"
  return .loop late test (← shape.statementIn "body")

def evaluated? (shape : Shape) (name : String) : Reading (Option Expression) :=
  match shape.field? name with
  | some (_, .expression e) => return some (ended e)
  | some (_, .statement (.evaluate e)) => return some e
  | _ => return none

def count (shape : Shape) : Reading Statement := do
  let start? ← match shape.field? "initializer" with
    | some (_, .statement s) => pure (some s)
    | some (_, .expression e) => pure (some (.evaluate (ended e)))
    | _ => pure none
  let test? ← shape.evaluated? "condition"
  return .count start? test? (← shape.expressionIn? "increment") (← shape.statementIn "body")

def guarded (shape : Shape) : Reading Statement := do
  let body ← bodyOf (← shape.field "body")
  let handler := match shape.field? "handler" with
    | some (_, .handler p body) => some (p, body)
    | _ => none
  let final ← match shape.field? "finalizer" with
    | some (_, part) => pure (some (← bodyOf part))
    | none => pure none
  return .guarded body handler final

def branch (shape : Shape) : Reading Statement := do
  let no ← match shape.field? "alternative" with
    | some (_, part) => pure (some (← statement part))
    | none => pure none
  return .branch (← shape.expressionIn "condition") (← shape.statementIn "consequence") no

/- A statement that is an expression; one that starts with a brace is a block. -/
def evaluate (shape : Shape) : Reading Statement := do
  match shape.children.find? fun (child, _) => child.named && child.kind != "comment" with
  | some (_, .statement s) => return s
  | some (child, .expression e) =>
      match child.firstLeaf.kind, e with
      | "function", _ => throw "function name expected"
      | "class", _ => throw "class statement requires a name"
      | "\x7b", .record members => braced child members
      | _, _ => return .evaluate (ended e)
  | _ => unreadable

def block (shape : Shape) : Reading Statement := do
  checkNames shape.statements
  return .block shape.statements

def choice (shape : Shape) : Reading Statement := do
  let cases := match shape.field? "body" with
    | some (_, .statement (.choose _ cases)) => cases
    | _ => []
  checkNames (cases.flatMap (·.2))
  return .choose (← shape.expressionIn "value") cases

def cases (shape : Shape) : Statement :=
  .choose .undefined (shape.children.filterMap fun (_, part) => match part with
    | .case test body => some (test, body)
    | _ => none)

def label? (shape : Shape) : Option String :=
  let label := shape.textOf "label"
  if label.isEmpty then none else some label

def statementPart? (shape : Shape) (outward : List String) :
    String → Option (Reading (Part × List String))
  | "program" | "statement_block" => plain shape.block
  | "empty_statement" | "debugger_statement" | "hash_bang_line" => plain (return .empty)
  | "expression_statement" => plain shape.evaluate
  | "variable_declaration" => some (do
      let s ← shape.declaration .hoisted
      let names := match s with
        | .declare _ items => items.flatMap fun (p, _) => p.names
        | _ => []
      return (.statement s, outward ++ names))
  | "lexical_declaration" => plain (do
      shape.declaration ((declaring? (shape.textOf "kind")).getD .changeable))
  | "variable_declarator" => some (do
      let e ← shape.expressionIn? "value"
      return (.declarator (← pattern (← shape.field "name")) e, outward))
  | "function_declaration" | "generator_function_declaration" => some (do
      let (f, outward) ← shape.lambda .plain outward
      return (.statement (.function f), outward))
  | "class_declaration" => plain (return .classOf (← shape.classTerm))
  | "if_statement" => plain shape.branch
  | "else_clause" | "finally_clause" => plain (match shape.statements with
      | s :: _ => return s
      | [] => unreadable)
  | "while_statement" => around ["break", "continue"] (shape.loop false)
  | "do_statement" => around ["break", "continue"] (shape.loop true)
  | "for_statement" => around ["break", "continue"] shape.count
  | "for_in_statement" =>
      some (shape.each (outward.filter fun word => word != "break" && word != "continue"))
  | "labeled_statement" => plain (do
      return .labelled (shape.textOf "label") (← shape.statementIn "body"))
  | "break_statement" => some (return (.statement (.leave shape.label?),
      if shape.label?.isNone then "break" :: outward else outward))
  | "continue_statement" => some (return (.statement (.next shape.label?),
      if shape.label?.isNone then "continue" :: outward else outward))
  | "return_statement" => some (do
      return (.statement (.answer shape.expressions.head?), outward ++ ["return"]))
  | "throw_statement" => plain (return .raise (← shape.first))
  | "try_statement" => plain shape.guarded
  | "catch_clause" => some (do
      let body ← bodyOf (← shape.field "body")
      match shape.field? "parameter" with
      | some (_, part) => return (.handler (some (← pattern part)) body, outward)
      | none => return (.handler none body, outward))
  | "switch_statement" => around ["break"] shape.choice
  | "switch_body" => plain (return shape.cases)
  | "switch_case" => some (do
      return (.case (some (← shape.expressionIn "value")) shape.statements, outward))
  | "switch_default" => some (return (.case none shape.statements, outward))
  | "import_statement" => some (throw "unsupported keyword: import")
  | "export_statement" => some (throw "unsupported keyword: export")
  | "with_statement" => some (throw "invalid keyword: with")
  | _ => none
where
  plain (s : Reading Statement) : Option (Reading (Part × List String)) :=
    some (return (.statement (← s), outward))
  around (words : List String) (s : Reading Statement) :
      Option (Reading (Part × List String)) :=
    some (return (.statement (← s), outward.filter (!words.contains ·)))

def part (shape : Shape) (outward : List String) : Reading (Part × List String) :=
  if !shape.node.named || shape.node.kind == "comment" then return (.token, outward)
  else
    (shape.expressionPart? outward shape.node.kind <|>
      shape.innerPart? outward shape.node.kind <|>
      shape.statementPart? outward shape.node.kind).getD (return (.token, outward))

end Shape

namespace Code
open Reading

def readNode (source : Source) (node : Node) (children : List (Node × Reading Read)) :
    Reading Read := do
  let children ← children.mapM fun (child, read) => return (child, ← read)
  let outward := children.flatMap fun (_, read) => read.outward
  let shape : Shape := ⟨source, node, children.map fun (child, read) => (child, read.part)⟩
  let (part, outward) ← shape.part outward
  return ⟨part, outward⟩

def missingName (word : String) : String :=
  match word with
  | "var" | "let" | "const" => "variable name expected"
  | "function" => "function name expected"
  | "." | "?." => "expecting field name"
  | _ => "expecting identifier"

def complaint (tongue : Tongue) (source : Source) : String :=
  match tongue.stop? source with
  | none => "unexpected token in expression: ''"
  | some stop =>
      let token := source.slice stop.start stop.stop
      let before := String.ofList
        ((Text.trimEnd (source.slice 0 stop.start)).reverse.takeWhile Text.isWord).reverse
      let before := if before.isEmpty then
          String.ofList (Text.trimEnd (source.slice 0 stop.start)).getLast?.toList
        else before
      let closing := [")", "]", "\x7d", ":", "("].find? fun mark => tongue.fits stop (.literal mark)
      if tongue.fits stop (.pattern .number) then
        "unexpected token in expression: '" ++ String.ofList token ++ "'"
      else if tongue.fits stop (.pattern .escape) then "unexpected end of string"
      else if tongue.fits stop (.literal "instanceof") && token.getLast? == some '=' then
        "invalid assignment left-hand side"
      else if tongue.fits stop (.contextual .semicolon) then "expecting ';'"
      else match closing with
        | some mark => "expecting '" ++ mark ++ "'"
        | none => missingName before

def read (tongue : Tongue) (text : Text) : Reading Code := do
  let source := Source.ofText text
  let root := tongue.outline source
  if root.cost != 0 then throw (complaint tongue source)
  let read ← root.fold (readNode source)
  if read.outward.contains "return" then throw "return not in a function"
  if read.outward.contains "await" then throw "expecting ';'"
  Shape.checkJumps read.outward
  match read.part with
  | .statement (.block body) =>
      return ⟨body, (read.outward.filter (· != "arguments")).eraseDups⟩
  | _ => unreadable

end Code

end ScriptConsole.Engine
