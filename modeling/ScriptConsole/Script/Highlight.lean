import ScriptConsole.Script.Minify
import ScriptConsole.Screen.Colouring

/-!
Which nodes of an outline are highlighted. Rules are tried in order on a node and the nodes around
it, and the last one that speaks of a node decides. -/
namespace ScriptConsole.Script

namespace Highlight

structure Place where
  node : Node
  around : List Node
  text : Text

namespace Place

def hasKind (place : Place) (kind : String) : Bool := place.node.named && place.node.kind = kind

/-- Whether a node above has a kind. -/
def isIn (place : Place) (level : Nat) (kind : String) : Bool :=
  match place.around[level]? with
  | some node => node.named && node.kind = kind
  | none => false

def hasField (place : Place) (field : String) : Bool := place.node.field = some field

def definesFunction (place : Place) (level : Nat) (field : String) : Bool :=
  match place.around[level]? with
  | some node => node.children.any fun child => child.field = some field &&
      ["function_expression", "arrow_function"].contains child.kind
  | none => false

/- Whether the node is the property of a member expression with a field in the node above that. -/
def isMember (place : Place) (field : String) : Bool :=
  place.hasKind "property_identifier" && place.hasField "property" &&
    place.isIn 0 "member_expression" &&
      (match place.around[0]? with
      | some node => node.field = some field
      | none => false)

end Place

def isUpper (c : Char) : Bool := 'A' ≤ c && c ≤ 'Z'

def isConstantName : Text → Bool
  | c :: d :: rest =>
      (isUpper c || c == '_') && (d :: rest).all fun c => isUpper c || isDigit c || c == '_'
  | _ => false

def keywords : List String :=
  ["as", "async", "await", "break", "case", "catch", "class", "const", "continue", "debugger",
    "default", "delete", "do", "else", "export", "extends", "finally", "for", "from", "function",
    "get", "if", "import", "in", "instanceof", "let", "new", "of", "return", "set", "static",
    "switch", "target", "throw", "try", "typeof", "var", "void", "while", "with", "yield"]

def operators : List String :=
  ["-", "--", "-=", "+", "++", "+=", "*", "*=", "**", "**=", "/", "/=", "%", "%=", "<", "<=", "<<",
    "<<=", "=", "==", "===", "!", "!=", "!==", "=>", ">", ">=", ">>", ">>=", ">>>", ">>>=", "~",
    "^", "&", "|", "^=", "&=", "|=", "&&", "||", "??", "&&=", "||=", "??="]

def rules : List ((Place → Bool) × Category) := [
  (fun p => p.hasKind "identifier", .variable),
  (fun p => p.hasKind "property_identifier", .property),
  (fun p => p.hasKind "identifier" && p.hasField "name" &&
    (p.isIn 0 "function_expression" || p.isIn 0 "function_declaration"), .function),
  (fun p => p.hasKind "property_identifier" && p.hasField "name" &&
    p.isIn 0 "method_definition", .function),
  (fun p => p.hasKind "property_identifier" && p.hasField "key" && p.isIn 0 "pair" &&
    p.definesFunction 0 "value", .function),
  (fun p => p.isMember "left" && p.isIn 1 "assignment_expression" &&
    p.definesFunction 1 "right", .function),
  (fun p => p.hasKind "identifier" && p.hasField "name" && p.isIn 0 "variable_declarator" &&
    p.definesFunction 0 "value", .function),
  (fun p => p.hasKind "identifier" && p.hasField "left" && p.isIn 0 "assignment_expression" &&
    p.definesFunction 0 "right", .function),
  (fun p => p.hasKind "identifier" && p.hasField "function" && p.isIn 0 "call_expression",
    .function),
  (fun p => p.isMember "function" && p.isIn 1 "call_expression", .function),
  (fun p => p.hasKind "identifier" && p.text.head?.any isUpper, .constructor),
  (fun p => (p.hasKind "identifier" || p.hasKind "shorthand_property_identifier" ||
    p.hasKind "shorthand_property_identifier_pattern") && isConstantName p.text, .constant),
  (fun p => p.hasKind "identifier" &&
    ["arguments", "module", "console", "window", "document"].contains (String.ofList p.text),
    .variable),
  (fun p => p.hasKind "identifier" && p.text = "require".toList, .function),
  (fun p => p.hasKind "this" || p.hasKind "super", .variable),
  (fun p => p.hasKind "true" || p.hasKind "false" || p.hasKind "null" || p.hasKind "undefined",
    .constant),
  (fun p => p.hasKind "comment", .comment),
  (fun p => p.hasKind "string" || p.hasKind "template_string" || p.hasKind "regex", .string),
  (fun p => p.hasKind "number", .number),
  (fun p => !p.node.named && operators.contains p.node.kind, .operator),
  (fun p => !p.node.named && keywords.contains p.node.kind, .keyword)]

def category? (place : Place) : Option Category :=
  (rules.filter (·.1 place)).getLast?.map (·.2)

structure Border where
  place : Nat
  starts : Option Nat

mutual

def borders (source : Source) (around : List Node) (node : Node) : List Border :=
  let inner := bordersOf source (node :: around) node.children
  match category? ⟨node, around, source.slice node.start node.stop⟩ with
  | some category =>
      ⟨node.start, some (Category.all.idxOf category)⟩ :: inner ++ [⟨node.stop, none⟩]
  | none => inner
termination_by (sizeOf node, 0)
decreasing_by
  exact Prod.Lex.left _ _ (Node.childrenSmaller node)

def bordersOf (source : Source) (around : List Node) : List Node → List Border
  | [] => []
  | node :: rest => borders source around node ++ bordersOf source around rest
termination_by nodes => (sizeOf nodes, 1)
decreasing_by
  all_goals
    simp only [List.cons.sizeOf_spec]
    apply Prod.Lex.left
    omega

end

def events (source : Source) (from_ : Nat) : List Border → List Colouring.Event
  | [] => piece source from_ source.length
  | border :: rest =>
      piece source from_ border.place ++
        (match border.starts with
        | some index => .start index
        | none => .stop) :: events source (max from_ border.place) rest
where
  piece (source : Source) (start stop : Nat) : List Colouring.Event :=
    if start < stop then [.text (source.slice start stop)] else []

end Highlight

namespace Tongue

def highlighter (tongue : Tongue) : Highlighter where
  highlight text markers :=
    let source := Source.ofText text
    Colouring.paint markers
      (Highlight.events source 0 (Highlight.borders source [] (tongue.outline source)))

end Tongue

end ScriptConsole.Script
