/-!
Grammars as data. A rule is a form over tokens and other rules; marks on a form say how an ambiguity
is decided and how a node is presented. Nothing here reads text. -/
namespace ScriptConsole.Grammar

inductive Pattern
  | hashBang | htmlReference | markupName | doubleMarkupFragment | singleMarkupFragment
  | doubleFragment | singleFragment | escape | comment | regexBody | regexEnd | regexFlags
  | number | name | privateName | staticGet
  deriving DecidableEq, Repr, Hashable

inductive Contextual
  | semicolon | templateText | ternaryMark | htmlComment | markupText
  deriving DecidableEq, Repr, Hashable

inductive Shape
  | endOfText
  | blanks
  | literal (text : String)
  | pattern (which : Pattern)
  | contextual (which : Contextual)
  deriving DecidableEq, Repr, Hashable, Inhabited

inductive Side
  | left | right
  deriving DecidableEq, Repr, Hashable

inductive Rank
  | plain
  | level (name : String)
  deriving DecidableEq, Repr, Hashable

structure Rename where
  kind : String
  named : Bool
  deriving DecidableEq, Repr, Hashable

inductive Mark
  | rank (rank : Rank) (side : Option Side)
  -- Preferred among trees that cover the same text.
  | weight (amount : Int)
  | field (name : String)
  | rename (rename : Rename)
  -- Reserved words are ordinary names here.
  | propertyName
  deriving DecidableEq, Repr, Hashable

inductive Form
  | blank
  | token (shape : Shape)
  | rule (name : String)
  | seq (first second : Form)
  | alt (first second : Form)
  | many (body : Form)
  | marked (mark : Mark) (body : Form)
  deriving DecidableEq, Repr, Hashable

namespace Form

instance : Inhabited Form := ⟨.blank⟩

instance : Coe String Form := ⟨fun text => .token (.literal text)⟩

def sequence : List Form → Form
  | [] => .blank
  | [form] => form
  | form :: rest => .seq form (sequence rest)

def choice : List Form → Form
  | [] => .blank
  | [form] => form
  | form :: rest => .alt form (choice rest)

def optional (form : Form) : Form := .alt form .blank

def star (form : Form) : Form := .alt (.many form) .blank

def commaSeparated (form : Form) : Form := .seq form (star (.seq "," form))

def commaList (form : Form) : Form := optional (commaSeparated form)

def field (name : String) (form : Form) : Form := .marked (.field name) form

def level (name : String) (form : Form) : Form := .marked (.rank (.level name) none) form

def levelTo (side : Side) (name : String) (form : Form) : Form :=
  .marked (.rank (.level name) (some side)) form

def grouped (side : Side) (form : Form) : Form := .marked (.rank .plain (some side)) form

def weighted (amount : Int) (form : Form) : Form := .marked (.weight amount) form

def shownAs (kind : String) (form : Form) : Form := .marked (.rename ⟨kind, true⟩) form

def spelledAs (text : String) (form : Form) : Form := .marked (.rename ⟨text, false⟩) form

def asProperty (form : Form) : Form := .marked .propertyName form

end Form

inductive OrderEntry
  | level (name : String)
  | rule (name : String)
  deriving DecidableEq, Repr

structure Description where
  rules : List (String × Form)
  extras : List Shape
  word : Pattern
  -- Words that are not names, except where a property is named.
  reservedWords : List String
  -- Rules whose uses are replaced by their bodies.
  inlined : List String
  -- Rules without a node of their own, besides those whose name starts with a low line.
  transparent : List String
  -- Each order lists what binds tighter first.
  orders : List (List OrderEntry)

end ScriptConsole.Grammar
