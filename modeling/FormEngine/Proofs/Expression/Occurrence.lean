/-
  FormEngine/Proofs/Expression/Occurrence.lean
  ============================================
  **What occurs in an expression**, and that the walk visits exactly this.

  `Occurs f e` holds when `f` is a node of `e`.  A statement about every node is
  proved by induction from the children of a node to the node, and the walk, which
  keeps a stack, meets a node exactly if it occurs (`mem_walk_iff`).
-/
import FormEngine.Expression.Traversal

namespace FormEngine.Expr

/-- The first expression is a node of the second. -/
inductive Occurs : Expr → Expr → Prop
  | root (e : Expr) : Occurs e e
  | inside {f c e : Expr} (child : c ∈ e.children) (within : Occurs f c) : Occurs f e

variable {e f c : Expr} {es stack : List Expr}

theorem occurs_iff : Occurs f e ↔ f = e ∨ ∃ c ∈ e.children, Occurs f c := by
  constructor
  · intro h
    cases h with
    | root => exact Or.inl rfl
    | inside child within => exact Or.inr ⟨_, child, within⟩
  · rintro (rfl | ⟨c, child, within⟩)
    · exact .root f
    · exact .inside child within

/-- Something holds of every node if it holds of the root and of every node of the children. -/
theorem forall_occurs_iff {p : Expr → Prop} :
    (∀ f, Occurs f e → p f) ↔ p e ∧ ∀ c ∈ e.children, ∀ f, Occurs f c → p f := by
  constructor
  · intro h
    exact ⟨h e (.root e), fun c child f within => h f (.inside child within)⟩
  · rintro ⟨root, inside⟩ f h
    cases h with
    | root => exact root
    | inside child within => exact inside _ child f within

/-! ### Induction over children -/

theorem nodeCount_le_of_mem (member : e ∈ es) : e.nodeCount ≤ nodeCounts es := by
  induction es with
  | nil => cases member
  | cons d es ih =>
    rw [nodeCounts]
    rcases List.mem_cons.mp member with rfl | member
    · omega
    · have bound := ih member
      omega

theorem nodeCount_lt_of_mem_children (child : c ∈ e.children) : c.nodeCount < e.nodeCount := by
  have bound := nodeCount_le_of_mem child
  have whole := nodeCounts_children e
  omega

/-- What holds of a node whenever it holds of its children holds of every expression. -/
theorem induction_children {p : Expr → Prop} (step : ∀ e, (∀ c ∈ e.children, p c) → p e)
    (e : Expr) : p e := by
  refine step e (fun c child => ?_)
  have smaller := nodeCount_lt_of_mem_children child
  exact induction_children step c
termination_by e.nodeCount

/-! ### The walk -/

theorem mem_walkStack_iff : f ∈ walkStack stack ↔ ∃ e ∈ stack, Occurs f e := by
  induction stack using walkStack.induct with
  | case1 => simp [walkStack]
  | case2 e stack ih =>
    rw [walkStack, List.mem_cons, ih]
    constructor
    · rintro (rfl | ⟨d, member, within⟩)
      · exact ⟨f, List.mem_cons_self, .root f⟩
      · rcases List.mem_append.mp member with child | later
        · exact ⟨e, List.mem_cons_self, .inside child within⟩
        · exact ⟨d, List.mem_cons_of_mem e later, within⟩
    · rintro ⟨d, member, within⟩
      rcases List.mem_cons.mp member with rfl | later
      · rcases occurs_iff.mp within with same | ⟨c, child, within⟩
        · exact Or.inl same
        · exact Or.inr ⟨c, List.mem_append_left stack child, within⟩
      · exact Or.inr ⟨d, List.mem_append_right e.children later, within⟩

/-- The walk visits the nodes of the expression and nothing else. -/
theorem mem_walk_iff : f ∈ e.walk ↔ Occurs f e := by
  rw [walk, mem_walkStack_iff]
  simp

end FormEngine.Expr
