import ScriptConsole.Grammar.Form

/-!
The grammar of JavaScript, markup included. Rule names are the kinds of nodes that a parse shows;
names that start with a low line have no node of their own. The order of the rules is the order in
which tokens are numbered, and so the order in which a missing one is looked for. -/
namespace ScriptConsole.Grammar.JavaScript
open Form (rule sequence choice optional star commaSeparated commaList field level levelTo grouped
  weighted shownAs spelledAs asProperty)

def pattern (which : Pattern) : Form := .token (.pattern which)

def contextual (which : Contextual) : Form := .token (.contextual which)

def modules : List (String × Form) := [
  ("program", sequence [optional (rule "hash_bang_line"), star (rule "statement")]),
  ("hash_bang_line", pattern .hashBang),
  ("export_statement",
    choice [
      sequence [
        "export",
        choice [
          sequence ["*", rule "_from_clause"],
          sequence [rule "namespace_export", rule "_from_clause"],
          sequence [rule "export_clause", rule "_from_clause"], rule "export_clause"],
        rule "_semicolon"],
      sequence [
        star (field "decorator" (rule "decorator")), "export",
        choice [
          field "declaration" (rule "declaration"),
          sequence [
            "default",
            choice [
              field "declaration" (rule "declaration"),
              sequence [field "value" (rule "expression"), rule "_semicolon"]]]]]]),
  ("namespace_export", sequence ["*", "as", rule "_module_export_name"]),
  ("export_clause",
    sequence ["\x7b", commaList (rule "export_specifier"), optional ",", "\x7d"]),
  ("export_specifier",
    sequence [
      field "name" (rule "_module_export_name"),
      optional (sequence ["as", field "alias" (rule "_module_export_name")])]),
  ("_module_export_name", choice [rule "identifier", rule "string", "default"]),
  ("declaration",
    choice [
      rule "function_declaration", rule "generator_function_declaration",
      rule "class_declaration", rule "lexical_declaration", rule "variable_declaration"]),
  ("import", "import"),
  ("import_statement",
    sequence [
      "import",
      choice [
        sequence [rule "import_clause", rule "_from_clause"], field "source" (rule "string")],
      optional (rule "import_attribute"), rule "_semicolon"]),
  ("import_clause",
    choice [
      rule "namespace_import", rule "named_imports",
      sequence [
        rule "identifier",
        optional (sequence [",", choice [rule "namespace_import", rule "named_imports"]])]]),
  ("_from_clause", sequence ["from", field "source" (rule "string")]),
  ("namespace_import", sequence ["*", "as", rule "identifier"]),
  ("named_imports",
    sequence ["\x7b", commaList (rule "import_specifier"), optional ",", "\x7d"]),
  ("import_specifier",
    choice [
      field "name" (rule "identifier"),
      sequence [
        field "name" (rule "_module_export_name"), "as", field "alias" (rule "identifier")]]),
  ("import_attribute", sequence ["with", rule "object"])]

def statements : List (String × Form) := [
  ("statement",
    choice [
      rule "export_statement", rule "import_statement", rule "debugger_statement",
      rule "expression_statement", rule "declaration", rule "statement_block",
      rule "if_statement", rule "switch_statement", rule "for_statement",
      rule "for_in_statement", rule "while_statement", rule "do_statement",
      rule "try_statement", rule "with_statement", rule "break_statement",
      rule "continue_statement", rule "return_statement", rule "throw_statement",
      rule "empty_statement", rule "labeled_statement"]),
  ("expression_statement", sequence [rule "_expressions", rule "_semicolon"]),
  ("variable_declaration",
    sequence ["var", commaSeparated (rule "variable_declarator"), rule "_semicolon"]),
  ("lexical_declaration",
    sequence [
      field "kind" (choice ["let", "const"]), commaSeparated (rule "variable_declarator"),
      rule "_semicolon"]),
  ("variable_declarator",
    sequence [
      field "name" (choice [
        rule "identifier", shownAs "identifier" "of", rule "_destructuring_pattern"]),
      optional (rule "_initializer")]),
  ("statement_block",
    grouped .right (sequence [
      "\x7b", star (rule "statement"), "\x7d", optional (contextual .semicolon)])),
  ("else_clause", sequence ["else", rule "statement"]),
  ("if_statement",
    grouped .right (sequence [
      "if", field "condition" (rule "parenthesized_expression"),
      field "consequence" (rule "statement"),
      optional (field "alternative" (rule "else_clause"))])),
  ("switch_statement",
    sequence [
      "switch", field "value" (rule "parenthesized_expression"),
      field "body" (rule "switch_body")]),
  ("for_statement",
    sequence [
      "for", "(",
      choice [
        field "initializer" (choice [
          rule "lexical_declaration", rule "variable_declaration"]),
        sequence [field "initializer" (rule "_expressions"), ";"],
        field "initializer" (rule "empty_statement")],
      choice [
        sequence [field "condition" (rule "_expressions"), ";"],
        field "condition" (rule "empty_statement")],
      field "increment" (optional (rule "_expressions")), ")",
      field "body" (rule "statement")]),
  ("for_in_statement",
    sequence ["for", optional "await", rule "_for_header", field "body" (rule "statement")]),
  ("_for_header",
    sequence [
      "(",
      choice [
        field "left" (choice [rule "_lhs_expression", rule "parenthesized_expression"]),
        sequence [
          field "kind" "var",
          field "left" (choice [rule "identifier", rule "_destructuring_pattern"]),
          optional (rule "_initializer")],
        sequence [
          field "kind" (choice ["let", "const"]),
          field "left" (choice [rule "identifier", rule "_destructuring_pattern"]),
          optional (contextual .semicolon)]],
      field "operator" (choice ["in", "of"]), field "right" (rule "_expressions"), ")"]),
  ("while_statement",
    sequence [
      "while", field "condition" (rule "parenthesized_expression"),
      field "body" (rule "statement")]),
  ("do_statement",
    grouped .right (sequence [
      "do", field "body" (rule "statement"), "while",
      field "condition" (rule "parenthesized_expression"), optional (rule "_semicolon")])),
  ("try_statement",
    sequence [
      "try", field "body" (rule "statement_block"),
      optional (field "handler" (rule "catch_clause")),
      optional (field "finalizer" (rule "finally_clause"))]),
  ("with_statement",
    sequence [
      "with", field "object" (rule "parenthesized_expression"),
      field "body" (rule "statement")]),
  ("break_statement",
    sequence [
      "break",
      field "label" (optional (shownAs "statement_identifier" (rule "identifier"))),
      rule "_semicolon"]),
  ("continue_statement",
    sequence [
      "continue",
      field "label" (optional (shownAs "statement_identifier" (rule "identifier"))),
      rule "_semicolon"]),
  ("debugger_statement", sequence ["debugger", rule "_semicolon"]),
  ("return_statement",
    sequence ["return", optional (rule "_expressions"), rule "_semicolon"]),
  ("throw_statement", sequence ["throw", rule "_expressions", rule "_semicolon"]),
  ("empty_statement", ";"),
  ("labeled_statement",
    weighted (-1) (sequence [
      field "label" (shownAs "statement_identifier" (choice [
        rule "identifier", rule "_reserved_identifier"])),
      ":", field "body" (rule "statement")])),
  ("switch_body",
    sequence ["\x7b", star (choice [rule "switch_case", rule "switch_default"]), "\x7d"]),
  ("switch_case",
    sequence [
      "case", field "value" (rule "_expressions"), ":",
      field "body" (star (rule "statement"))]),
  ("switch_default", sequence ["default", ":", field "body" (star (rule "statement"))]),
  ("catch_clause",
    sequence [
      "catch",
      optional (sequence [
        "(", field "parameter" (choice [rule "identifier", rule "_destructuring_pattern"]),
        ")"]),
      field "body" (rule "statement_block")]),
  ("finally_clause", sequence ["finally", field "body" (rule "statement_block")])]

def expressions : List (String × Form) := [
  ("parenthesized_expression", sequence ["(", rule "_expressions", ")"]),
  ("_expressions", choice [rule "expression", rule "sequence_expression"]),
  ("expression",
    choice [
      rule "primary_expression", rule "_jsx_element", rule "assignment_expression",
      rule "augmented_assignment_expression", rule "await_expression",
      rule "unary_expression", rule "binary_expression", rule "ternary_expression",
      rule "update_expression", rule "new_expression", rule "yield_expression"]),
  ("primary_expression",
    choice [
      rule "subscript_expression", rule "member_expression",
      rule "parenthesized_expression", rule "_identifier",
      shownAs "identifier" (rule "_reserved_identifier"), rule "this", rule "super",
      rule "number", rule "string", rule "template_string", rule "regex", rule "true",
      rule "false", rule "null", rule "object", rule "array", rule "function_expression",
      rule "arrow_function", rule "generator_function", rule "class", rule "meta_property",
      rule "call_expression"]),
  ("yield_expression",
    grouped .right (sequence [
      "yield", choice [sequence ["*", rule "expression"], optional (rule "expression")]])),
  ("object",
    level "object" (sequence [
      "\x7b",
      commaList (optional (choice [
        rule "pair", rule "spread_element", rule "method_definition",
        shownAs "shorthand_property_identifier" (choice [
          rule "identifier", rule "_reserved_identifier"])])),
      "\x7d"])),
  ("object_pattern",
    level "object" (sequence [
      "\x7b",
      commaList (optional (choice [
        rule "pair_pattern", rule "rest_pattern", rule "object_assignment_pattern",
        shownAs "shorthand_property_identifier_pattern" (choice [
          rule "identifier", rule "_reserved_identifier"])])),
      "\x7d"])),
  ("assignment_pattern",
    sequence [field "left" (rule "pattern"), "=", field "right" (rule "expression")]),
  ("object_assignment_pattern",
    sequence [
      field "left" (choice [
        shownAs "shorthand_property_identifier_pattern" (choice [
          rule "_reserved_identifier", rule "identifier"]),
        rule "_destructuring_pattern"]),
      "=", field "right" (rule "expression")]),
  ("array",
    sequence [
      "[", commaList (optional (choice [rule "expression", rule "spread_element"])), "]"]),
  ("array_pattern",
    sequence [
      "[", commaList (optional (choice [rule "pattern", rule "assignment_pattern"])), "]"])]

def markup : List (String × Form) := [
  ("_jsx_element", choice [rule "jsx_element", rule "jsx_self_closing_element"]),
  ("jsx_element",
    sequence [
      field "open_tag" (rule "jsx_opening_element"), star (rule "_jsx_child"),
      field "close_tag" (rule "jsx_closing_element")]),
  ("html_character_reference", pattern .htmlReference),
  ("jsx_expression",
    sequence [
      "\x7b",
      optional (choice [
        rule "expression", rule "sequence_expression", rule "spread_element"]),
      "\x7d"]),
  ("_jsx_child",
    choice [
      contextual .markupText, rule "html_character_reference", rule "_jsx_element",
      rule "jsx_expression"]),
  ("jsx_opening_element",
    weighted (-1) (sequence [
      "<",
      optional (sequence [
        field "name" (rule "_jsx_element_name"),
        star (field "attribute" (rule "_jsx_attribute"))]),
      ">"])),
  ("jsx_identifier", pattern .markupName),
  ("_jsx_identifier",
    choice [shownAs "identifier" (rule "jsx_identifier"), rule "identifier"]),
  ("nested_identifier",
    level "member" (sequence [
      field "object" (choice [
        rule "identifier", shownAs "member_expression" (rule "nested_identifier")]),
      ".", field "property" (shownAs "property_identifier" (rule "identifier"))])),
  ("jsx_namespace_name", sequence [rule "_jsx_identifier", ":", rule "_jsx_identifier"]),
  ("_jsx_element_name",
    choice [
      rule "_jsx_identifier", shownAs "member_expression" (rule "nested_identifier"),
      rule "jsx_namespace_name"]),
  ("jsx_closing_element",
    sequence ["</", optional (field "name" (rule "_jsx_element_name")), ">"]),
  ("jsx_self_closing_element",
    sequence [
      "<", field "name" (rule "_jsx_element_name"),
      star (field "attribute" (rule "_jsx_attribute")), "/>"]),
  ("_jsx_attribute", choice [rule "jsx_attribute", rule "jsx_expression"]),
  ("_jsx_attribute_name",
    choice [
      shownAs "property_identifier" (rule "_jsx_identifier"), rule "jsx_namespace_name"]),
  ("jsx_attribute",
    sequence [
      rule "_jsx_attribute_name", optional (sequence ["=", rule "_jsx_attribute_value"])]),
  ("_jsx_string",
    choice [
      sequence [
        "\"",
        star (choice [
          shownAs "string_fragment" (rule "unescaped_double_jsx_string_fragment"),
          rule "html_character_reference"]),
        "\""],
      sequence [
        "'",
        star (choice [
          shownAs "string_fragment" (rule "unescaped_single_jsx_string_fragment"),
          rule "html_character_reference"]),
        "'"]]),
  ("unescaped_double_jsx_string_fragment", pattern .doubleMarkupFragment),
  ("unescaped_single_jsx_string_fragment", pattern .singleMarkupFragment),
  ("_jsx_attribute_value",
    choice [
      shownAs "string" (rule "_jsx_string"), rule "jsx_expression", rule "_jsx_element"])]

def functions : List (String × Form) := [
  ("class",
    level "literal" (sequence [
      star (field "decorator" (rule "decorator")), "class",
      field "name" (optional (rule "identifier")), optional (rule "class_heritage"),
      field "body" (rule "class_body")])),
  ("class_declaration",
    level "declare" (sequence [
      star (field "decorator" (rule "decorator")), "class",
      field "name" (rule "identifier"), optional (rule "class_heritage"),
      field "body" (rule "class_body"), optional (contextual .semicolon)])),
  ("class_heritage", sequence ["extends", rule "expression"]),
  ("function_expression",
    level "literal" (sequence [
      optional "async", "function", field "name" (optional (rule "identifier")),
      rule "_call_signature", field "body" (rule "statement_block")])),
  ("function_declaration",
    levelTo .right "declare" (sequence [
      optional "async", "function", field "name" (rule "identifier"),
      rule "_call_signature", field "body" (rule "statement_block"),
      optional (contextual .semicolon)])),
  ("generator_function",
    level "literal" (sequence [
      optional "async", "function", "*", field "name" (optional (rule "identifier")),
      rule "_call_signature", field "body" (rule "statement_block")])),
  ("generator_function_declaration",
    levelTo .right "declare" (sequence [
      optional "async", "function", "*", field "name" (rule "identifier"),
      rule "_call_signature", field "body" (rule "statement_block"),
      optional (contextual .semicolon)])),
  ("arrow_function",
    sequence [
      optional "async",
      choice [
        field "parameter" (choice [
          shownAs "identifier" (rule "_reserved_identifier"), rule "identifier"]),
        rule "_call_signature"],
      "=>", field "body" (choice [rule "expression", rule "statement_block"])]),
  ("_call_signature", field "parameters" (rule "formal_parameters")),
  ("_formal_parameter", choice [rule "pattern", rule "assignment_pattern"]),
  ("optional_chain", "?."),
  ("call_expression",
    choice [
      level "call" (sequence [
        field "function" (choice [rule "expression", rule "import"]),
        field "arguments" (rule "arguments")]),
      level "template_call" (sequence [
        field "function" (choice [rule "primary_expression", rule "new_expression"]),
        field "arguments" (rule "template_string")]),
      level "member" (sequence [
        field "function" (rule "primary_expression"),
        field "optional_chain" (rule "optional_chain"), field "arguments" (rule "arguments")])]),
  ("new_expression",
    levelTo .right "new" (sequence [
      "new",
      field "constructor" (choice [rule "primary_expression", rule "new_expression"]),
      field "arguments" (optional (weighted 1 (rule "arguments")))])),
  ("await_expression", level "unary_void" (sequence ["await", rule "expression"])),
  ("member_expression",
    level "member" (sequence [
      field "object" (choice [rule "expression", rule "primary_expression", rule "import"]),
      choice [".", field "optional_chain" (rule "optional_chain")],
      field "property" (choice [
        rule "private_property_identifier",
        asProperty (shownAs "property_identifier" (rule "identifier"))])])),
  ("subscript_expression",
    levelTo .right "member" (sequence [
      field "object" (choice [rule "expression", rule "primary_expression"]),
      optional (field "optional_chain" (rule "optional_chain")), "[",
      field "index" (rule "_expressions"), "]"])),
  ("_lhs_expression",
    choice [
      rule "member_expression", rule "subscript_expression", rule "_identifier",
      shownAs "identifier" (rule "_reserved_identifier"), rule "_destructuring_pattern"]),
  ("assignment_expression",
    levelTo .right "assign" (sequence [
      field "left" (choice [rule "parenthesized_expression", rule "_lhs_expression"]), "=",
      field "right" (rule "expression")])),
  ("_augmented_assignment_lhs",
    choice [
      rule "member_expression", rule "subscript_expression",
      shownAs "identifier" (rule "_reserved_identifier"), rule "identifier",
      rule "parenthesized_expression"]),
  ("augmented_assignment_expression",
    levelTo .right "assign" (sequence [
      field "left" (rule "_augmented_assignment_lhs"),
      field "operator" (choice [
        "+=", "-=", "*=", "/=", "%=", "^=", "&=", "|=", ">>=", ">>>=", "<<=", "**=", "&&=",
        "||=", "??="]),
      field "right" (rule "expression")])),
  ("_initializer", sequence ["=", field "value" (rule "expression")]),
  ("_destructuring_pattern", choice [rule "object_pattern", rule "array_pattern"])]

def binaryOperators : List (String × String) := [
  ("&&", "logical_and"), ("||", "logical_or"), (">>", "binary_shift"), (">>>", "binary_shift"),
  ("<<", "binary_shift"), ("&", "bitwise_and"), ("^", "bitwise_xor"), ("|", "bitwise_or"),
  ("+", "binary_plus"), ("-", "binary_plus"), ("*", "binary_times"), ("/", "binary_times"),
  ("%", "binary_times"), ("**", "binary_exp"), ("<", "binary_relation"),
  ("<=", "binary_relation"), ("==", "binary_equality"), ("===", "binary_equality"),
  ("!=", "binary_equality"), ("!==", "binary_equality"), (">=", "binary_relation"),
  (">", "binary_relation"), ("??", "ternary"), ("instanceof", "binary_relation"),
  ("in", "binary_relation")]

/- An operator with its operands. Only powers group to the right, and only membership takes a
private name on its left. -/
def binary : String × String → Form
  | (operator, level) =>
      let operand : Form := if operator = "in" then
        choice [rule "expression", rule "private_property_identifier"] else rule "expression"
      levelTo (if operator = "**" then .right else .left) level (sequence [
        field "left" operand, field "operator" operator, field "right" (rule "expression")])

def operators : List (String × Form) := [
  ("spread_element", sequence ["...", rule "expression"]),
  ("ternary_expression",
    levelTo .right "ternary" (sequence [
      field "condition" (rule "expression"), spelledAs "?" (contextual .ternaryMark),
      field "consequence" (rule "expression"), ":", field "alternative" (rule "expression")])),
  ("binary_expression", choice (binaryOperators.map binary)),
  ("unary_expression",
    levelTo .left "unary_void" (sequence [
      field "operator" (choice ["!", "~", "-", "+", "typeof", "void", "delete"]),
      field "argument" (rule "expression")])),
  ("update_expression",
    grouped .left (choice [
      sequence [
        field "argument" (rule "expression"), field "operator" (choice ["++", "--"])],
      sequence [
        field "operator" (choice ["++", "--"]), field "argument" (rule "expression")]])),
  ("sequence_expression", grouped .right (commaSeparated (rule "expression")))]

def literals : List (String × Form) := [
  ("string",
    choice [
      sequence [
        "\"",
        star (choice [
          shownAs "string_fragment" (rule "unescaped_double_string_fragment"),
          rule "escape_sequence"]),
        "\""],
      sequence [
        "'",
        star (choice [
          shownAs "string_fragment" (rule "unescaped_single_string_fragment"),
          rule "escape_sequence"]),
        "'"]]),
  ("unescaped_double_string_fragment", pattern .doubleFragment),
  ("unescaped_single_string_fragment", pattern .singleFragment),
  ("escape_sequence", pattern .escape),
  ("comment", pattern .comment),
  ("template_string",
    sequence [
      "`",
      star (choice [
        shownAs "string_fragment" (contextual .templateText), rule "escape_sequence",
        rule "template_substitution"]),
      "`"]),
  ("template_substitution", sequence ["$\x7b", rule "_expressions", "\x7d"]),
  ("regex",
    sequence [
      "/", field "pattern" (rule "regex_pattern"), pattern .regexEnd,
      optional (field "flags" (rule "regex_flags"))]),
  ("regex_pattern", pattern .regexBody),
  ("regex_flags", pattern .regexFlags),
  ("number", pattern .number),
  ("_identifier", choice [rule "undefined", rule "identifier"]),
  ("identifier", pattern .name),
  ("private_property_identifier", pattern .privateName),
  ("meta_property",
    choice [sequence ["new", ".", "target"], sequence ["import", ".", "meta"]]),
  ("this", "this"),
  ("super", "super"),
  ("true", "true"),
  ("false", "false"),
  ("null", "null"),
  ("undefined", "undefined"),
  ("arguments",
    sequence [
      "(", commaList (optional (choice [rule "expression", rule "spread_element"])), ")"])]

def members : List (String × Form) := [
  ("decorator",
    sequence [
      "@",
      choice [
        rule "identifier", shownAs "member_expression" (rule "decorator_member_expression"),
        shownAs "call_expression" (rule "decorator_call_expression"),
        rule "parenthesized_expression"]]),
  ("decorator_member_expression",
    level "member" (sequence [
      field "object" (choice [
        rule "identifier", shownAs "member_expression" (rule "decorator_member_expression")]),
      ".", field "property" (shownAs "property_identifier" (rule "identifier"))])),
  ("decorator_call_expression",
    level "call" (sequence [
      field "function" (choice [
        rule "identifier", shownAs "member_expression" (rule "decorator_member_expression")]),
      field "arguments" (rule "arguments")])),
  ("class_body",
    sequence [
      "\x7b",
      star (choice [
        sequence [field "member" (rule "method_definition"), optional ";"],
        sequence [field "member" (rule "field_definition"), rule "_semicolon"],
        field "member" (rule "class_static_block"), ";"]),
      "\x7d"]),
  ("field_definition",
    sequence [
      star (field "decorator" (rule "decorator")), optional "static",
      field "property" (rule "_property_name"), optional (rule "_initializer")]),
  ("formal_parameters",
    sequence [
      "(", optional (sequence [commaSeparated (rule "_formal_parameter"), optional ","]),
      ")"]),
  ("class_static_block",
    sequence [
      "static", optional (contextual .semicolon), field "body" (rule "statement_block")]),
  ("pattern", weighted (-1) (choice [rule "_lhs_expression", rule "rest_pattern"])),
  ("rest_pattern", grouped .right (sequence ["...", rule "_lhs_expression"])),
  ("method_definition",
    sequence [
      star (field "decorator" (rule "decorator")),
      optional (choice ["static", spelledAs "static get" (pattern .staticGet)]),
      optional "async", optional (choice ["get", "set", "*"]),
      field "name" (rule "_property_name"), field "parameters" (rule "formal_parameters"),
      field "body" (rule "statement_block")]),
  ("pair",
    sequence [field "key" (rule "_property_name"), ":", field "value" (rule "expression")]),
  ("pair_pattern",
    sequence [
      field "key" (rule "_property_name"), ":",
      field "value" (choice [rule "pattern", rule "assignment_pattern"])]),
  ("_property_name",
    asProperty (choice [
      shownAs "property_identifier" (choice [
        rule "identifier", rule "_reserved_identifier"]),
      rule "private_property_identifier", rule "string", rule "number",
      rule "computed_property_name"])),
  ("computed_property_name", sequence ["[", rule "expression", "]"]),
  ("_reserved_identifier", choice ["get", "set", "async", "static", "export", "let"]),
  ("_semicolon", choice [contextual .semicolon, ";"])]

def orders : List (List OrderEntry) := [
  [.level "member", .level "template_call", .level "call", .rule "update_expression",
   .level "unary_void", .level "binary_exp", .level "binary_times", .level "binary_plus",
   .level "binary_shift", .level "binary_compare", .level "binary_relation",
   .level "binary_equality", .level "bitwise_and", .level "bitwise_xor", .level "bitwise_or",
   .level "logical_and", .level "logical_or", .level "ternary", .rule "sequence_expression",
   .rule "arrow_function"],
  [.level "assign", .rule "primary_expression"],
  [.level "member", .level "template_call", .level "new", .level "call", .rule "expression"],
  [.level "declare", .level "literal"],
  [.rule "primary_expression", .rule "statement_block", .level "object"],
  [.rule "meta_property", .rule "import"],
  [.rule "import_statement", .rule "import"],
  [.rule "export_statement", .rule "primary_expression"],
  [.rule "lexical_declaration", .rule "primary_expression"]]

def reservedWords : List String := [
  "break", "case", "catch", "class", "const", "continue", "debugger", "default", "delete", "do",
  "else", "export", "extends", "false", "finally", "for", "function", "if", "import", "in",
  "instanceof", "new", "null", "return", "super", "switch", "this", "throw", "true", "try",
  "typeof", "var", "void", "while", "with"]

def description : Description where
  rules := modules ++ statements ++ expressions ++ markup ++ functions ++ operators ++ literals ++
    members
  extras := [.pattern .comment, .contextual .htmlComment, .blanks]
  word := .name
  reservedWords := reservedWords
  inlined := [
    "_call_signature", "_formal_parameter", "_expressions", "_semicolon", "_identifier",
    "_reserved_identifier", "_jsx_attribute", "_jsx_element_name", "_jsx_child", "_jsx_element",
    "_jsx_attribute_name", "_jsx_attribute_value", "_jsx_identifier", "_lhs_expression"]
  transparent := ["statement", "declaration", "expression", "primary_expression", "pattern"]
  orders := orders

end ScriptConsole.Grammar.JavaScript
