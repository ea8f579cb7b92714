/-
  FormEngine/Expression/Traversal.lean
  ====================================
  **The nodes of an expression** in pre-order, and the variables it refers to.

  `walk` visits every node before its children and the children from left to
  right; it keeps the nodes still to be visited on a stack, and ends because every
  step makes the trees on the stack smaller by one node.
-/
import FormEngine.Expression.Expr
import FormEngine.Expression.Library

namespace FormEngine.Expr

/-- The direct parts of a node, in the order in which they are written. -/
def children : Expr → List Expr
  | .literal _ | .identifier _ => []
  | .member target _ => [target]
  | .index target place => [target, place]
  | .call _ _ arguments => arguments
  | .array items => items
  | .binary _ left right => [left, right]
  | .unary _ operand => [operand]
  | .conditional condition thenBranch elseBranch => [condition, thenBranch, elseBranch]

mutual

/-- The number of nodes of an expression. -/
def nodeCount : Expr → Nat
  | .literal _ | .identifier _ => 1
  | .member target _ => target.nodeCount + 1
  | .index target place => target.nodeCount + place.nodeCount + 1
  | .call _ _ arguments => nodeCounts arguments + 1
  | .array items => nodeCounts items + 1
  | .binary _ left right => left.nodeCount + right.nodeCount + 1
  | .unary _ operand => operand.nodeCount + 1
  | .conditional condition thenBranch elseBranch =>
    condition.nodeCount + thenBranch.nodeCount + elseBranch.nodeCount + 1

/-- The number of nodes of several expressions. -/
def nodeCounts : List Expr → Nat
  | [] => 0
  | e :: rest => e.nodeCount + nodeCounts rest

end

theorem nodeCounts_append (es fs : List Expr) :
    nodeCounts (es ++ fs) = nodeCounts es + nodeCounts fs := by
  induction es with
  | nil => simp [nodeCounts]
  | cons e es ih => simp [nodeCounts, ih, Nat.add_assoc]

/-- A node counts one more than its children together. -/
theorem nodeCounts_children (e : Expr) : nodeCounts e.children + 1 = e.nodeCount := by
  cases e <;> (simp [children, nodeCounts, nodeCount]; try omega)

/-- The nodes of the expressions on a stack, the first expression first. -/
def walkStack : List Expr → List Expr
  | [] => []
  | e :: stack => e :: walkStack (e.children ++ stack)
termination_by stack => nodeCounts stack
decreasing_by
  rw [nodeCounts_append, nodeCounts, ← nodeCounts_children e]
  omega

/-- Every node of an expression, each before its children. -/
def walk (e : Expr) : List Expr := walkStack [e]

/-- The name of a namespace that a node accesses, as in `Math.PI`. -/
def accessedSpace? : Expr → Option String
  | .member (.identifier name) _ => if Library.isSpace name then some name else none
  | _ => none

/-- Collects the names of variables from nodes in order.  A name is not taken twice, and not
    after it was met as the namespace of an access. -/
def collectVariables : (seen : List String) → List Expr → List String
  | _, [] => []
  | seen, node :: rest =>
    match accessedSpace? node with
    | some space => collectVariables (space :: seen) rest
    | none =>
      match node with
      | .identifier name =>
        if seen.contains name then collectVariables seen rest
        else name :: collectVariables (name :: seen) rest
      | _ => collectVariables seen rest

/-- The variables that an expression refers to, in the order of their first use. -/
def variableNames (e : Expr) : List String := collectVariables [] e.walk

end FormEngine.Expr
