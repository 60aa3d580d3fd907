import TokenGrammar.Token

/-!
# Trees of matched tokens

A match keeps the tokens that it consumed, those of each reference and group in a subtree. A program
is a flat list of subtrees, one for each top-level expression.
-/
namespace TokenGrammar

inductive Node
  | token (t : Token)
  /-- What a reference or group consumed; a group has no label. -/
  | tree (label : Option String) (width : Nat) (children : List Node)
  deriving Repr

structure Subtree where
  label : Option String
  width : Nat
  children : List Node
  deriving Repr

/-- Width counts the tokens consumed. -/
structure Matched where
  width : Nat
  nodes : List Node
  deriving Repr

structure Program where
  expressions : List Subtree
  deriving Repr

def indentation (depth : Nat) : String := String.ofList (List.replicate (depth * 2) ' ')

mutual

/-- One line for the node and one for each of its descendants, indented by depth. -/
def Node.outline (depth : Nat) : Node → List String
  | .token t => [indentation depth ++ t.describe]
  | .tree label width children =>
    let name := label.getD "group"
    (indentation depth ++ s!"{name} [{width}]") :: outlineAll (depth + 1) children

def outlineAll (depth : Nat) : List Node → List String
  | [] => []
  | node :: rest => node.outline depth ++ outlineAll depth rest

end

mutual

/-- The tokens below a node, from left to right. -/
def Node.leaves : Node → List Token
  | .token t => [t]
  | .tree _ _ children => leavesAll children

def leavesAll : List Node → List Token
  | [] => []
  | node :: rest => node.leaves ++ leavesAll rest

end

namespace Subtree

def node (s : Subtree) : Node := .tree s.label s.width s.children

end Subtree

namespace Program

/-- Number of tokens that the expressions cover. -/
def width (p : Program) : Nat := p.expressions.foldr (fun s n => s.width + n) 0

def outline (p : Program) : List String :=
  s!"program [{p.width}]" :: p.expressions.flatMap fun s => s.node.outline 1

end Program

theorem leavesAll_append (xs ys : List Node) : leavesAll (xs ++ ys) = leavesAll xs ++ leavesAll ys := by
  induction xs with
  | nil => rfl
  | cons x xs ih => rw [List.cons_append, leavesAll, leavesAll, ih, List.append_assoc]

theorem leavesAll_map_token (ts : List Token) : leavesAll (ts.map .token) = ts := by
  induction ts with
  | nil => rfl
  | cons t ts ih => rw [List.map_cons, leavesAll, Node.leaves, ih, List.cons_append, List.nil_append]

end TokenGrammar
