/-
  FormEngine/Proofs/Derived/DeclaredOrder.lean
  ============================================
  **Fields that are declared parents first are computed as declared.**

  The walk sets out from the fields in declaration order.  If every field stands after
  all that it depends on, then all of these are finished when the field is reached, so
  that the walk finishes it at once: what is finished is at any time the part of the
  declaration that was gone through (`visit_declared`).

  An order of computation is itself parents first.  So the fields of a form without
  cycles, declared again in the order in which they were computed, are computed in the
  same order again.
-/
import FormEngine.Proofs.Derived.Resolution

namespace FormEngine

namespace DependencyGraph

variable {graph : DependencyGraph} {path targets : List String} {w : Found}

/-- Fields that are finished, and names that are no fields, leave the walk as it is. -/
theorem visit_of_forall_finished
    (done : ∀ y ∈ targets, y ∉ path ∧ (y ∈ graph.names → y ∈ w.finished)) :
    graph.visit path targets w = w := by
  induction targets with
  | nil => rw [visit]
  | cons y rest ih =>
    obtain ⟨⟨offPath, finished⟩, later⟩ := List.forall_mem_cons.mp done
    by_cases listed : y ∈ w.finished
    · rw [visit_of_mem_finished offPath listed, ih later]
    · have unknown : graph.get? y = none :=
        Record.get?_eq_none_of_not_mem (fun known => listed (finished known))
      rw [visit_of_not_mem_names offPath listed unknown, ih later]

/-- **The walk finishes the fields as they are declared**, if they are declared parents first.  The
    induction is on the declarations to come; those gone through are what is finished. -/
theorem visit_declared (distinct : graph.names.Nodup) (first : ParentsFirst graph graph.names)
    {before after : List String} (split : graph.names = before ++ after) :
    graph.visit [] after ⟨before.reverse, []⟩ = ⟨graph.names.reverse, []⟩ := by
  induction after generalizing before with
  | nil => rw [visit, split, List.append_nil]
  | cons x after ih =>
    have isField : x ∈ graph.names := by simp [split]
    have fresh : x ∉ before.reverse := by
      intro member
      rw [split] at distinct
      exact (List.nodup_append.mp distinct).2.2 x (List.mem_reverse.mp member) x
        List.mem_cons_self rfl
    obtain ⟨parents, entry⟩ := Record.exists_get?_of_mem isField
    have earlier : ∀ y ∈ parents, y ∈ graph.names → y ∈ before.reverse := by
      intro y listed known
      have step : DependsOn graph x y := ⟨⟨parents, Record.mem_of_get? entry, listed⟩, known⟩
      exact List.mem_reverse.mpr (first before x after split y step)
    have within : graph.visit [x] parents ⟨before.reverse, []⟩ = ⟨before.reverse, []⟩ := by
      apply visit_of_forall_finished
      intro y listed
      refine ⟨?_, earlier y listed⟩
      intro same
      -- a field that is its own parent would have to stand before itself
      cases List.mem_singleton.mp same
      exact fresh (earlier x listed isField)
    have splitLater : graph.names = (before ++ [x]) ++ after := by simp [split]
    have onward := ih splitLater
    rw [List.reverse_append] at onward
    rw [visit_of_fresh List.not_mem_nil fresh entry, within]
    exact onward

theorem visited_of_parentsFirst (distinct : graph.names.Nodup)
    (first : ParentsFirst graph graph.names) : graph.visited = ⟨graph.names.reverse, []⟩ := by
  have start : graph.names = [] ++ graph.names := rfl
  exact visit_declared distinct first start

theorem resolve_of_parentsFirst (distinct : graph.names.Nodup)
    (first : ParentsFirst graph graph.names) (policy : CyclePolicy) :
    graph.resolve policy = ⟨graph.names, [], []⟩ := by
  have walked := visited_of_parentsFirst distinct first
  have acyclic : graph.cycles = [] := by rw [cycles_eq, walked, List.reverse_nil]
  rw [resolve_of_acyclic acyclic, postOrder_eq, walked, List.reverse_reverse]

end DependencyGraph

/-! ### Declaring fields in another order -/

/-- The fields with the ids of the order, in this order. -/
def arranged (fields : List (String × List String)) (order : List String) :
    List (String × List String) :=
  order.filterMap (fun x => (Record.get? fields x).map (fun parents => (x, parents)))

section Arranged

variable {fields : List (String × List String)} {order : List String}

theorem arranged_subset : arranged fields order ⊆ fields := by
  intro e member
  obtain ⟨x, _, found⟩ := List.mem_filterMap.mp member
  obtain ⟨parents, entry, rfl⟩ := Option.map_eq_some_iff.mp found
  exact Record.mem_of_get? entry

theorem ids_arranged (known : ∀ x ∈ order, x ∈ fields.map Prod.fst) :
    (arranged fields order).map Prod.fst = order := by
  induction order with
  | nil => rfl
  | cons x order ih =>
    obtain ⟨isField, later⟩ := List.forall_mem_cons.mp known
    obtain ⟨parents, entry⟩ := Record.exists_get?_of_mem isField
    have rest := ih later
    simp only [arranged] at rest
    simp [arranged, entry, rest]

theorem dependsOn_of_arranged {x y : String} (step : DependsOn (arranged fields order) x y) :
    DependsOn fields x y := by
  obtain ⟨⟨parents, entry, listed⟩, isField⟩ := step
  exact ⟨⟨parents, arranged_subset entry, listed⟩,
    (List.map_subset Prod.fst arranged_subset) isField⟩

end Arranged

section Fields

open DependencyGraph

variable {fields : List (String × List String)} (distinct : (fields.map Prod.fst).Nodup)
include distinct

theorem resolve_ofFields_of_parentsFirst (first : ParentsFirst fields (fields.map Prod.fst))
    (policy : CyclePolicy) :
    (ofFields fields).resolve policy = ⟨fields.map Prod.fst, [], []⟩ := by
  have names := names_ofFields distinct
  have firstToo : ParentsFirst (ofFields fields) (ofFields fields).names := by
    rw [names, parentsFirst_ofFields distinct]
    exact first
  rw [resolve_of_parentsFirst (nodup_names_ofFields distinct) firstToo, names]

omit distinct in
theorem resolve_arranged {order : List String} (once : order.Nodup)
    (known : ∀ x ∈ order, x ∈ fields.map Prod.fst) (first : ParentsFirst fields order)
    (policy : CyclePolicy) :
    (ofFields (arranged fields order)).resolve policy = ⟨order, [], []⟩ := by
  have ids := ids_arranged known
  have onceToo : ((arranged fields order).map Prod.fst).Nodup := by rwa [ids]
  have firstToo : ParentsFirst (arranged fields order) ((arranged fields order).map Prod.fst) := by
    rw [ids]
    intro before x after split y step
    exact first before x after split y (dependsOn_of_arranged step)
  rw [resolve_ofFields_of_parentsFirst onceToo firstToo, ids]

/-- **The declared order is kept wherever it can be.**  If every field is declared after all its
    derived parents, then under either policy the fields are computed in declaration order and none
    is blocked.  And if the dependencies have no cycle, then the fields declared in the order in
    which they are computed have the same resolution again. -/
theorem resolve_declaredOrder (policy again : CyclePolicy) :
    (ParentsFirst fields (fields.map Prod.fst) →
      (ofFields fields).resolve policy = ⟨fields.map Prod.fst, [], []⟩) ∧
    (((ofFields fields).resolve policy).isCyclic = false →
      (ofFields (arranged fields ((ofFields fields).resolve policy).order)).resolve again =
        (ofFields fields).resolve policy) := by
  constructor
  · intro first
    exact resolve_ofFields_of_parentsFirst distinct first policy
  · intro acyclic
    have sorts := sorts_resolve_ofFields distinct policy
    have known : ∀ x ∈ ((ofFields fields).resolve policy).order, x ∈ fields.map Prod.fst :=
      fun x member => ((sorts.mem_order x).mp member).1
    rw [resolve_arranged sorts.distinct known sorts.parentsFirst again,
      resolve_of_acyclic (cycles_eq_nil_of_not_isCyclic acyclic)]

/-- The amounts of an invoice, each declared before the amounts that it is computed from. -/
def invoice : List (String × List String) :=
  [("gross", ["tax", "net"]), ("tax", ["net", "rate"]), ("net", [])]

omit distinct in
theorem resolve_declaredOrder_invoice :
    (invoice.map Prod.fst).Nodup ∧ ((ofFields invoice).resolve .isolate).isCyclic = false ∧
    ParentsFirst (arranged invoice ["net", "tax", "gross"]) ["net", "tax", "gross"] ∧
    (ofFields (arranged invoice ["net", "tax", "gross"])).resolve .invalidateAll =
      ⟨["net", "tax", "gross"], [], []⟩ ∧
    (ofFields (arranged invoice ((ofFields invoice).resolve .isolate).order)).resolve
      .invalidateAll = (ofFields invoice).resolve .isolate := by
  have distinct : (invoice.map Prod.fst).Nodup := by decide
  have acyclic : ((ofFields invoice).resolve .isolate).isCyclic = false := by cbv
  have order : ((ofFields invoice).resolve .isolate).order = ["net", "tax", "gross"] := by cbv
  have first : ParentsFirst (arranged invoice ["net", "tax", "gross"]) ["net", "tax", "gross"] := by
    have sorted := (sorts_resolve_ofFields distinct .isolate).parentsFirst
    rw [order] at sorted
    intro before x after split y step
    exact sorted before x after split y (dependsOn_of_arranged step)
  have rearranged := (resolve_declaredOrder distinct .isolate .invalidateAll).2 acyclic
  have once : ((arranged invoice ["net", "tax", "gross"]).map Prod.fst).Nodup := by decide
  have declared := (resolve_declaredOrder once .invalidateAll .isolate).1 first
  exact ⟨distinct, acyclic, first, declared, rearranged⟩

end Fields

end FormEngine
