/-
  FormEngine/Proofs/Expression/Preorder.lean
  ==========================================
  **The walk is the pre-order of the tree.**

  The walk keeps the trees that are still to be visited on a stack, and each turn
  replaces the topmost one with its children.  `preorder` has no stack: it is the root,
  followed by the nodes of each part in turn.  What ties the two is that a stack stands
  for the nodes of its trees, one tree after the other (`walkStack_eq_preorders`).

  That this order is the one that readers expect is said with the places of nodes.  A
  place is the path from the root to a node, each step the number of a child, so a node
  may occur at several places.  In lexicographic order a place comes before the
  places inside it, and the places inside one child before those inside the next; the
  walk goes through all places in this order (`ListsByPlace`).
-/
import FormEngine.Proofs.Expression.Occurrence

namespace FormEngine.Expr

/-! ### Pre-order -/

mutual

/-- The nodes of an expression: the root, then those of its parts as they are written. -/
def preorder : Expr → List Expr
  | .literal value => [.literal value]
  | .identifier name => [.identifier name]
  | .member target property => .member target property :: preorder target
  | .index target place => .index target place :: (preorder target ++ preorder place)
  | .call space name arguments => .call space name arguments :: preorders arguments
  | .array items => .array items :: preorders items
  | .binary op left right => .binary op left right :: (preorder left ++ preorder right)
  | .unary op operand => .unary op operand :: preorder operand
  | .conditional condition thenBranch elseBranch =>
    .conditional condition thenBranch elseBranch ::
      (preorder condition ++ preorder thenBranch ++ preorder elseBranch)

/-- The nodes of several expressions, one expression after the other. -/
def preorders : List Expr → List Expr
  | [] => []
  | e :: rest => preorder e ++ preorders rest

end

variable {e c : Expr} {es nodes others : List Expr}

theorem preorders_append (es fs : List Expr) :
    preorders (es ++ fs) = preorders es ++ preorders fs := by
  induction es with
  | nil => rfl
  | cons e es ih => rw [List.cons_append, preorders, preorders, ih, List.append_assoc]

/-- The root comes first, and the children follow. -/
theorem preorder_eq_cons (e : Expr) : e.preorder = e :: preorders e.children := by
  cases e <;> simp [preorder, preorders, children]

/-! ### The stack -/

/-- A turn leaves the nodes that the stack stands for, but for the one that is visited. -/
theorem preorders_cons_eq (e : Expr) (stack : List Expr) :
    preorders (e :: stack) = e :: preorders (e.children ++ stack) := by
  rw [preorders, preorder_eq_cons, preorders_append, List.cons_append]

theorem walkStack_eq_preorders (stack : List Expr) : walkStack stack = preorders stack := by
  induction stack using walkStack.induct with
  | case1 => rw [walkStack, preorders]
  | case2 e stack ih => rw [walkStack, ih, preorders_cons_eq]

/-- The walk takes one turn for each node. -/
theorem length_walkStack (stack : List Expr) : (walkStack stack).length = nodeCounts stack := by
  induction stack using walkStack.induct with
  | case1 => rw [walkStack, nodeCounts, List.length_nil]
  | case2 e stack ih =>
    rw [walkStack, List.length_cons, ih, nodeCounts_append, nodeCounts, ← nodeCounts_children e]
    omega

/-! ### Places -/

/-- The node at a place: each step goes to the child with this number. -/
def nodeAt? : Expr → List Nat → Option Expr
  | e, [] => some e
  | e, i :: place => e.children[i]?.bind (fun c => nodeAt? c place)

/-- The node at a place in one of several expressions; the first step is the number of the
    expression. -/
def nodeAmong? (es : List Expr) : List Nat → Option Expr
  | [] => none
  | i :: place => es[i]?.bind (fun c => nodeAt? c place)

/-- The nodes are those at all the places where there is one, by the order of the places. -/
def ListsByPlace (at? : List Nat → Option Expr) (nodes : List Expr) : Prop :=
  ∃ places : List (List Nat), places.Pairwise (· < ·) ∧
    (∀ place, (at? place).isSome = true → place ∈ places) ∧ nodes.map some = places.map at?

/-- The place in the expressions behind the first, seen from the first. -/
def later : List Nat → List Nat
  | [] => []
  | i :: place => (i + 1) :: place

theorem exists_cons_of_map_eq {places : List (List Nat)}
    (map_eq : nodes.map some = places.map (nodeAmong? es)) {place : List Nat}
    (member : place ∈ places) : ∃ i inner, place = i :: inner := by
  cases place with
  | nil =>
    have found : nodeAmong? es [] ∈ nodes.map some := by
      rw [map_eq]
      exact List.mem_map_of_mem member
    obtain ⟨_, _, other⟩ := List.mem_map.mp found
    cases other
  | cons i inner => exact ⟨i, inner, rfl⟩

theorem listsByPlace_nil : ListsByPlace (nodeAmong? []) [] := by
  refine ⟨[], List.Pairwise.nil, ?_, rfl⟩
  intro place found
  cases place with
  | nil => cases found
  | cons i inner => cases found

/-- The places of the first expression come before those of the others. -/
theorem ListsByPlace.cons (first : ListsByPlace (nodeAt? c) nodes)
    (rest : ListsByPlace (nodeAmong? es) others) :
    ListsByPlace (nodeAmong? (c :: es)) (nodes ++ others) := by
  obtain ⟨places, ascending, complete, map_eq⟩ := first
  obtain ⟨places', ascending', complete', map_eq'⟩ := rest
  refine ⟨places.map (0 :: ·) ++ places'.map later, ?_, ?_, ?_⟩
  · refine List.pairwise_append.mpr ⟨?_, ?_, ?_⟩
    · exact List.pairwise_map.mpr (ascending.imp List.cons_lt_cons_self.mpr)
    · refine List.pairwise_map.mpr (ascending'.imp_of_mem (fun {p q} member member' before => ?_))
      obtain ⟨i, inner, rfl⟩ := exists_cons_of_map_eq map_eq' member
      obtain ⟨j, inner', rfl⟩ := exists_cons_of_map_eq map_eq' member'
      rw [later, later, List.cons_lt_cons_iff]
      rw [List.cons_lt_cons_iff] at before
      exact before.imp Nat.succ_lt_succ (And.imp_left (congrArg Nat.succ))
    · intro p inFirst q inRest
      obtain ⟨inner, _, rfl⟩ := List.mem_map.mp inFirst
      obtain ⟨place, member, rfl⟩ := List.mem_map.mp inRest
      obtain ⟨j, inner', rfl⟩ := exists_cons_of_map_eq map_eq' member
      exact List.cons_lt_cons_iff.mpr (Or.inl (Nat.succ_pos j))
  · intro place found
    rcases place with _ | ⟨_ | i, inner⟩
    · cases found
    · exact List.mem_append_left _ (List.mem_map_of_mem (complete inner found))
    · have member := List.mem_map_of_mem (f := later) (complete' (i :: inner) found)
      exact List.mem_append_right _ member
  · have inRest : ∀ place ∈ places', nodeAmong? (c :: es) (later place) = nodeAmong? es place := by
      intro place member
      obtain ⟨i, inner, rfl⟩ := exists_cons_of_map_eq map_eq' member
      rfl
    rw [List.map_append, List.map_append, List.map_map, List.map_map, map_eq, map_eq',
      ← List.map_congr_left inRest]
    rfl

/-- The root comes before what stands inside. -/
theorem ListsByPlace.root (inside : ListsByPlace (nodeAmong? e.children) nodes) :
    ListsByPlace (nodeAt? e) (e :: nodes) := by
  obtain ⟨places, ascending, complete, map_eq⟩ := inside
  refine ⟨[] :: places, ?_, ?_, ?_⟩
  · refine List.pairwise_cons.mpr ⟨fun place member => ?_, ascending⟩
    obtain ⟨i, inner, rfl⟩ := exists_cons_of_map_eq map_eq member
    exact List.nil_lt_cons i inner
  · intro place found
    cases place with
    | nil => exact List.mem_cons_self
    | cons i inner => exact List.mem_cons_of_mem _ (complete (i :: inner) found)
  · have same : ∀ place ∈ places, nodeAt? e place = nodeAmong? e.children place := by
      intro place member
      obtain ⟨i, inner, rfl⟩ := exists_cons_of_map_eq map_eq member
      rfl
    rw [List.map_cons, List.map_cons, map_eq, List.map_congr_left same]
    rfl

theorem listsByPlace_preorder (e : Expr) : ListsByPlace (nodeAt? e) e.preorder := by
  induction e using induction_children with
  | step e ih =>
    rw [preorder_eq_cons]
    refine ListsByPlace.root ?_
    generalize e.children = cs at ih
    induction cs with
    | nil => exact listsByPlace_nil
    | cons c cs ih' =>
      rw [List.forall_mem_cons] at ih
      exact ih.1.cons (ih' ih.2)

/-! ### The walk -/

/-- **The walk visits the nodes in pre-order**: a node, then its children from left to right.
    It takes as many turns as there are nodes, and goes through the places of the tree in their
    order, each place once. -/
theorem walk_eq_preorder (e : Expr) :
    e.walk = e.preorder ∧ e.walk.length = e.nodeCount ∧ ListsByPlace (nodeAt? e) e.walk := by
  have same : e.walk = e.preorder := by
    rw [walk, walkStack_eq_preorders, preorders, preorders, List.append_nil]
  refine ⟨same, ?_, ?_⟩
  · rw [walk, length_walkStack, nodeCounts, nodeCounts, Nat.add_zero]
  · rw [same]
    exact listsByPlace_preorder e

end FormEngine.Expr
