import ScriptConsole.Script.Parse

/-!
A parse as it is shown: nodes with their kinds and fields, hidden nodes replaced by their
children. -/
namespace ScriptConsole.Script
open Grammar (Rename)

structure Node where
  kind : String
  named : Bool
  field : Option String
  start : Nat
  stop : Nat
  missing : Bool
  isError : Bool
  cost : Nat
  children : List Node
  deriving Inhabited

theorem Tree.childrenSmaller (tree : Tree) : sizeOf tree.children < sizeOf tree := by
  cases tree
  simp only [Tree.mk.sizeOf_spec]
  omega

theorem Node.childrenSmaller (node : Node) : sizeOf node.children < sizeOf node := by
  cases node
  simp only [Node.mk.sizeOf_spec]
  omega

namespace Node

mutual

def ofTree (tongue : Tongue) (rename : Option Rename) (field : Option String) (tree : Tree) :
    List Node :=
  let usual := tongue.presentation tree.label
  let shown := rename.isSome || usual.visible
  let children := ofTrees tongue (tongue.stepsOf tree.production).toList
    (if shown then none else field) tree.children
  if shown then
    [{ kind := (rename.map (·.kind)).getD usual.kind
       named := (rename.map (·.named)).getD usual.named
       field := field
       start := tree.start
       stop := tree.stop
       missing := tree.missing
       isError := tree.label = .error
       cost := tree.cost
       children := children }]
  else children
termination_by (sizeOf tree, 0)
decreasing_by
  exact Prod.Lex.left _ _ (Tree.childrenSmaller tree)

def ofTrees (tongue : Tongue) (steps : List Grammar.Step) (field : Option String) :
    List Tree → List Node
  | [] => []
  | tree :: rest =>
      if tree.extra then
        (if tree.label.isEnd then [] else ofTree tongue none field tree) ++
          ofTrees tongue steps field rest
      else
        let own := steps.head?
        ofTree tongue (own.bind tongue.rename?) ((own.bind (·.field)) <|> field) tree ++
          ofTrees tongue steps.tail field rest
termination_by trees => (sizeOf trees, 1)
decreasing_by
  all_goals
    simp only [List.cons.sizeOf_spec]
    apply Prod.Lex.left
    omega

end

def firstLeaf (node : Node) : Node :=
  match _h : node.children with
  | [] => node
  | first :: _ => firstLeaf first
termination_by sizeOf node
decreasing_by
  have := childrenSmaller node
  rw [_h, List.cons.sizeOf_spec] at this
  omega

end Node

namespace Tongue

/- The outline of a text; a text that no tree was found for is one error. -/
def outline (tongue : Tongue) (source : Source) : Node :=
  match (tongue.parse source).map (Node.ofTree tongue none none) with
  | some (node :: _) => node
  | _ => ⟨"ERROR", true, none, 0, source.length, false, true, Tree.errorCost, []⟩

end Tongue

end ScriptConsole.Script
