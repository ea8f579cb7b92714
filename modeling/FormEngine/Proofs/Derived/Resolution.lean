/-
  FormEngine/Proofs/Derived/Resolution.lean
  =========================================
  **The order of computation, and what cycles block.**

  A resolution is cyclic exactly if the dependencies are (`isCyclic_resolve_iff`), and
  without cycles every field is ordered, after all that it depends on.  With cycles
  the policy decides: either nothing is ordered, or exactly the fields that reach no
  cycle (`mem_blocked_isolate`).

  The walk reports one path for each step back, not every cycle.  That is enough:
  every cycle has an edge that closes a reported one, so whatever reaches a cycle
  also reaches a reported field, and is caught among the dependents
  (`mem_withDependents_flatten_cycles`).
-/
import FormEngine.Proofs.Derived.Walk
import Mathlib.Data.List.Permutation

namespace FormEngine

open Relation

namespace DependencyGraph

variable {graph : DependencyGraph} {x y : String}

/-! ### Reported cycles -/

theorem mem_cycles {cycle : List String} :
    cycle ∈ graph.cycles ↔ cycle ∈ graph.visited.cycles := by
  rw [cycles_eq, List.mem_reverse]

theorem onCycle_of_mem_flatten_cycles (distinct : graph.names.Nodup)
    (h : x ∈ graph.cycles.flatten) : OnCycle graph x := by
  obtain ⟨cycle, reported, member⟩ := List.mem_flatten.mp h
  exact ((visits_visited distinct).sound.closed cycle (mem_cycles.mp reported)).onCycle member

/-- From every cycle a reported field can be reached. -/
theorem exists_mem_flatten_cycles (distinct : graph.names.Nodup) (h : OnCycle graph x) :
    ∃ y ∈ graph.cycles.flatten, ReflTransGen (DependsOn graph) x y := by
  obtain ⟨inner, walked⟩ := exists_isChain_of_onCycle h
  obtain ⟨u, v, edge, cycle, reported, last⟩ := exists_infix_closes distinct walked
  have isReported : u ∈ cycle := last.subset List.mem_cons_self
  refine ⟨u, List.mem_flatten.mpr ⟨cycle, mem_cycles.mpr reported, isReported⟩, ?_⟩
  have onWay : u ∈ x :: (inner ++ [x]) := edge.subset List.mem_cons_self
  rcases List.mem_cons.mp onWay with rfl | later
  · exact ReflTransGen.refl
  · exact ((walked.imp (fun _ _ => TransGen.single)).rel_cons later).to_reflTransGen

theorem cycles_eq_nil_iff (distinct : graph.names.Nodup) :
    graph.cycles = [] ↔ ¬ ∃ x, OnCycle graph x := by
  constructor
  · rintro none ⟨x, onCycle⟩
    obtain ⟨y, member, _⟩ := exists_mem_flatten_cycles distinct onCycle
    rw [none] at member
    cases member
  · intro acyclic
    rw [List.eq_nil_iff_forall_not_mem]
    intro cycle reported
    obtain ⟨x, inner, shape, _⟩ :=
      (visits_visited distinct).sound.closed cycle (mem_cycles.mp reported)
    refine acyclic ⟨x, onCycle_of_mem_flatten_cycles distinct ?_⟩
    exact List.mem_flatten.mpr ⟨cycle, reported, by rw [shape]; simp⟩

/-! ### The order of finishing -/

theorem mem_postOrder (distinct : graph.names.Nodup) : x ∈ graph.postOrder ↔ x ∈ graph.names := by
  rw [postOrder_eq, List.mem_reverse, mem_finished_visited distinct]

theorem nodup_postOrder (distinct : graph.names.Nodup) : graph.postOrder.Nodup := by
  rw [postOrder_eq, List.nodup_reverse]
  exact (visits_visited distinct).sound.distinct

/-- A field that is on no cycle is finished after all that it depends on. -/
theorem mem_of_postOrder_eq (distinct : graph.names.Nodup) {before after : List String}
    (split : graph.postOrder = before ++ x :: after) (step : DependsOn graph x y)
    (offCycle : ¬ OnCycle graph x) : y ∈ before := by
  have finished : graph.visited.finished = after.reverse ++ x :: before.reverse := by
    rw [← List.reverse_reverse graph.visited.finished, ← postOrder_eq, split]
    simp
  have part : (x :: before.reverse) <:+ graph.visited.finished := ⟨after.reverse, finished.symm⟩
  rcases (visits_visited distinct).sound.settled x before.reverse part y step with earlier | closes
  · exact List.mem_reverse.mp earlier
  · obtain ⟨cycle, reported, last⟩ := closes
    have onCycle : OnCycle graph x :=
      ((visits_visited distinct).sound.closed cycle reported).onCycle (last.subset List.mem_cons_self)
    exact absurd onCycle offCycle

/-- Fields that are on no cycle, chosen together with all that they depend on, are finished
    parents first. -/
theorem parentsFirst_filter_postOrder (distinct : graph.names.Nodup) (chosen : String → Bool)
    (acyclic : ∀ x, chosen x = true → ¬ OnCycle graph x)
    (closed : ∀ x y, DependsOn graph x y → chosen x = true → chosen y = true) :
    ParentsFirst graph (graph.postOrder.filter chosen) := by
  intro before x after split y step
  obtain ⟨first, second, whole, rfl, rest⟩ := List.filter_eq_append_iff.mp split
  obtain ⟨skipped, last, rfl, skips, isChosen, _⟩ := List.filter_eq_cons_iff.mp rest
  have earlier : y ∈ first ++ skipped :=
    mem_of_postOrder_eq distinct (by rw [whole, List.append_assoc]) step (acyclic x isChosen)
  have alsoChosen : chosen y = true := closed x y step isChosen
  rcases List.mem_append.mp earlier with h | h
  · exact List.mem_filter.mpr ⟨h, alsoChosen⟩
  · exact absurd alsoChosen (skips y h)

/-! ### Dependents -/

/-- Where a sweep changes nothing, no field outside has a parent inside. -/
theorem sweepFrom_eq_of_unchanged {entries : List (String × List String)}
    {affected : List String} (unchanged : (sweepFrom affected false entries).2 = false) :
    (sweepFrom affected false entries).1 = affected ∧
      ∀ e ∈ entries, e.1 ∉ affected → ∀ p ∈ e.2, p ∉ affected := by
  induction entries with
  | nil => exact ⟨rfl, List.forall_mem_nil _⟩
  | cons e entries ih =>
    rw [sweepFrom] at unchanged ⊢
    split at unchanged
    · obtain ⟨new, result, _⟩ := exists_sweepFrom_eq entries (e.1 :: affected) true
      rw [result] at unchanged
      cases unchanged
    · next skips =>
      obtain ⟨same, others⟩ := ih unchanged
      rw [if_neg skips, List.forall_mem_cons]
      refine ⟨same, ?_, others⟩
      simpa using skips

/-- What a sweep adds depends on a field that was affected. -/
theorem exists_of_mem_sweepFrom {entries : List (String × List String)} {affected : List String}
    {changed : Bool} (listed : entries ⊆ graph) (known : ∀ y ∈ affected, y ∈ graph.names)
    (member : x ∈ (sweepFrom affected changed entries).1) :
    ∃ y ∈ affected, ReflTransGen (DependsOn graph) x y := by
  induction entries generalizing affected changed with
  | nil => exact ⟨x, member, ReflTransGen.refl⟩
  | cons e entries ih =>
    obtain ⟨entry, later⟩ := List.cons_subset.mp listed
    rw [sweepFrom] at member
    split at member
    · next adds =>
      simp only [Bool.and_eq_true, List.any_eq_true, decide_eq_true_eq] at adds
      obtain ⟨_, p, parent, inside⟩ := adds
      have step : DependsOn graph e.1 p := ⟨⟨e.2, entry, parent⟩, known p inside⟩
      obtain ⟨y, first, path⟩ :=
        ih later (List.forall_mem_cons.mpr ⟨List.mem_map_of_mem entry, known⟩) member
      rcases List.mem_cons.mp first with rfl | first
      · exact ⟨p, inside, path.tail step⟩
      · exact ⟨y, first, path⟩
    · exact ih later known member

/-- The dependents of some fields are the fields that reach one of them. -/
theorem mem_withDependents {affected : List String} (known : ∀ y ∈ affected, y ∈ graph.names) :
    x ∈ graph.withDependents affected ↔
      ∃ y ∈ affected, ReflTransGen (DependsOn graph) x y := by
  induction affected using withDependents.induct graph with
  | case1 affected changed _ ih =>
    have more : graph.withDependents affected =
        graph.withDependents (graph.sweep affected).1 := by
      rw [withDependents]
      split
      · rfl
      · next unchanged =>
        rw [changed] at unchanged
        cases unchanged
    have origin : ∀ z ∈ (graph.sweep affected).1,
        ∃ y ∈ affected, ReflTransGen (DependsOn graph) z y := fun z member =>
      exists_of_mem_sweepFrom (List.Subset.refl graph) known member
    have knownToo : ∀ z ∈ (graph.sweep affected).1, z ∈ graph.names := by
      obtain ⟨new, result, members⟩ := exists_sweepFrom_eq graph affected false
      intro z member
      rw [sweep, result] at member
      rcases List.mem_append.mp member with added | before
      · exact (members z added).1
      · exact known z before
    rw [more, ih knownToo]
    constructor
    · rintro ⟨z, member, path⟩
      obtain ⟨y, before, onward⟩ := origin z member
      exact ⟨y, before, path.trans onward⟩
    · rintro ⟨y, before, path⟩
      obtain ⟨new, result, _⟩ := exists_sweepFrom_eq graph affected false
      refine ⟨y, ?_, path⟩
      rw [sweep, result]
      exact List.mem_append_right new before
  | case2 affected unchanged =>
    obtain ⟨same, nothing⟩ := sweepFrom_eq_of_unchanged unchanged
    have stop : graph.withDependents affected = affected := by
      rw [withDependents]
      split
      · next changed =>
        rw [changed] at unchanged
        cases unchanged
      · exact same
    rw [stop]
    constructor
    · intro member
      exact ⟨x, member, ReflTransGen.refl⟩
    · rintro ⟨y, member, path⟩
      -- no field outside has a parent inside, so a path that ends inside began there
      induction path using ReflTransGen.head_induction_on with
      | refl => exact member
      | @head x z step _ inside =>
        obtain ⟨⟨parents, entry, listed⟩, _⟩ := step
        by_contra outside
        exact nothing (x, parents) entry outside z listed inside

/-- Together with their dependents, the reported fields are those that reach a cycle. -/
theorem mem_withDependents_flatten_cycles (distinct : graph.names.Nodup) :
    x ∈ graph.withDependents graph.cycles.flatten ↔ ReachesCycle graph x := by
  have known : ∀ y ∈ graph.cycles.flatten, y ∈ graph.names := fun y h =>
    (onCycle_of_mem_flatten_cycles distinct h).mem
  rw [mem_withDependents known]
  constructor
  · rintro ⟨y, member, path⟩
    exact ⟨y, path, onCycle_of_mem_flatten_cycles distinct member⟩
  · rintro ⟨y, path, onCycle⟩
    obtain ⟨z, member, onward⟩ := exists_mem_flatten_cycles distinct onCycle
    exact ⟨z, member, path.trans onward⟩

/-! ### Resolving a graph -/

variable {policy : CyclePolicy}

theorem resolve_of_acyclic (acyclic : graph.cycles = []) :
    graph.resolve policy = ⟨graph.postOrder, [], []⟩ := by
  unfold resolve
  rw [acyclic]

theorem resolve_invalidateAll_of_cyclic (cyclic : graph.cycles ≠ []) :
    graph.resolve .invalidateAll = ⟨[], graph.cycles, graph.names⟩ := by
  obtain ⟨cycle, rest, cycles⟩ := List.exists_cons_of_ne_nil cyclic
  unfold resolve
  rw [cycles]

theorem resolve_isolate_of_cyclic (cyclic : graph.cycles ≠ []) :
    graph.resolve .isolate =
      ⟨graph.postOrder.filter (fun x => x ∉ graph.withDependents graph.cycles.flatten),
        graph.cycles,
        graph.names.filter (fun x => x ∈ graph.withDependents graph.cycles.flatten)⟩ := by
  obtain ⟨cycle, rest, cycles⟩ := List.exists_cons_of_ne_nil cyclic
  unfold resolve
  rw [cycles]

@[simp] theorem resolve_cycles : (graph.resolve policy).cycles = graph.cycles := by
  by_cases acyclic : graph.cycles = []
  · rw [resolve_of_acyclic acyclic, acyclic]
  · cases policy with
    | invalidateAll => rw [resolve_invalidateAll_of_cyclic acyclic]
    | isolate => rw [resolve_isolate_of_cyclic acyclic]

theorem isCyclic_resolve_iff (distinct : graph.names.Nodup) :
    (graph.resolve policy).isCyclic = true ↔ ∃ x, OnCycle graph x := by
  rw [Resolution.isCyclic, resolve_cycles, ← not_iff_not, ← cycles_eq_nil_iff distinct]
  simp

theorem cycles_eq_nil_of_not_isCyclic (h : (graph.resolve policy).isCyclic = false) :
    graph.cycles = [] := by
  simpa [Resolution.isCyclic] using h

theorem parentsFirst_postOrder (distinct : graph.names.Nodup) (acyclic : graph.cycles = []) :
    ParentsFirst graph graph.postOrder := by
  have none : ¬ ∃ x, OnCycle graph x := (cycles_eq_nil_iff distinct).mp acyclic
  have sorted := parentsFirst_filter_postOrder distinct (fun _ => true)
    (fun x _ onCycle => none ⟨x, onCycle⟩) (fun _ _ _ _ => rfl)
  rwa [List.filter_true] at sorted

/-- Where cycles invalidate everything, one cycle blocks every field. -/
theorem mem_blocked_invalidateAll (distinct : graph.names.Nodup) :
    x ∈ (graph.resolve .invalidateAll).blocked ↔ x ∈ graph.names ∧ ∃ y, OnCycle graph y := by
  by_cases acyclic : graph.cycles = []
  · rw [resolve_of_acyclic acyclic]
    constructor
    · intro h
      cases h
    · rintro ⟨_, cyclic⟩
      exact absurd cyclic ((cycles_eq_nil_iff distinct).mp acyclic)
  · rw [resolve_invalidateAll_of_cyclic acyclic]
    have cyclic : ∃ y, OnCycle graph y := by
      by_contra none
      exact acyclic ((cycles_eq_nil_iff distinct).mpr none)
    exact ⟨fun member => ⟨member, cyclic⟩, And.left⟩

/-- Under isolation exactly the fields that reach a cycle are blocked. -/
theorem mem_blocked_isolate (distinct : graph.names.Nodup) :
    x ∈ (graph.resolve .isolate).blocked ↔ ReachesCycle graph x := by
  by_cases acyclic : graph.cycles = []
  · rw [resolve_of_acyclic acyclic]
    constructor
    · intro h
      cases h
    · rintro ⟨y, _, onCycle⟩
      exact absurd ⟨y, onCycle⟩ ((cycles_eq_nil_iff distinct).mp acyclic)
  · rw [resolve_isolate_of_cyclic acyclic, List.mem_filter, decide_eq_true_iff,
      mem_withDependents_flatten_cycles distinct]
    exact ⟨And.right, fun reaches => ⟨reaches.mem, reaches⟩⟩

/-! ### What every resolution keeps to -/

/-- A resolution sorts the fields: each is ordered or blocked and not both, none is ordered twice,
    and parents come first. -/
structure Sorts (graph : DependencyGraph) (r : Resolution) : Prop where
  distinct : r.order.Nodup
  parentsFirst : ParentsFirst graph r.order
  blocked : r.blocked.Sublist graph.names
  mem_order : ∀ x, x ∈ r.order ↔ x ∈ graph.names ∧ x ∉ r.blocked

theorem Sorts.not_mem_of_split {r : Resolution} {before after : List String}
    (sorts : Sorts graph r) (split : r.order = before ++ x :: after) :
    x ∉ before ∧ x ∉ after := by
  have distinct := sorts.distinct
  rw [split, List.nodup_middle, List.nodup_cons, List.mem_append, not_or] at distinct
  exact distinct.1

/-- Under either policy, a resolution sorts the fields. -/
theorem sorts_resolve (distinct : graph.names.Nodup) (policy : CyclePolicy) :
    Sorts graph (graph.resolve policy) := by
  by_cases acyclic : graph.cycles = []
  · rw [resolve_of_acyclic acyclic]
    exact ⟨nodup_postOrder distinct, parentsFirst_postOrder distinct acyclic,
      List.nil_sublist _, fun x => by simp [mem_postOrder distinct]⟩
  · cases policy with
    | invalidateAll =>
      rw [resolve_invalidateAll_of_cyclic acyclic]
      refine ⟨List.nodup_nil, ?_, List.Sublist.refl _, fun x => by simp⟩
      intro before x after split
      simp at split
    | isolate =>
      have sorted : ParentsFirst graph (graph.postOrder.filter
          (fun x => x ∉ graph.withDependents graph.cycles.flatten)) := by
        refine parentsFirst_filter_postOrder distinct _ ?_ ?_
        · intro x chosen onCycle
          rw [decide_eq_true_iff, mem_withDependents_flatten_cycles distinct] at chosen
          exact chosen onCycle.reachesCycle
        · intro x y step chosen
          rw [decide_eq_true_iff, mem_withDependents_flatten_cycles distinct] at chosen ⊢
          exact fun reaches => chosen (reaches.of_dependsOn step)
      rw [resolve_isolate_of_cyclic acyclic]
      refine ⟨(nodup_postOrder distinct).filter _, sorted, List.filter_sublist, fun x => ?_⟩
      simp only [List.mem_filter, mem_postOrder distinct, decide_eq_true_iff, not_and]
      exact and_congr_right (fun member => ⟨fun h _ => h, fun h => h member⟩)

end DependencyGraph

/-! ### Resolving a list of fields -/

/-- Two cycles that share an edge, a field that depends on one of them, and fields that depend on
    none. -/
def entangled : List (String × List String) :=
  [("base", []), ("a", ["b"]), ("b", ["c", "base"]), ("c", ["b", "a"]), ("view", ["c"]),
    ("net", ["base"])]

section Fields

open DependencyGraph

variable {fields : List (String × List String)} (distinct : (fields.map Prod.fst).Nodup)
include distinct

theorem nodup_names_ofFields : (ofFields fields).names.Nodup := by
  rw [names_ofFields distinct]
  exact distinct

theorem onCycle_ofFields (x : String) : OnCycle (ofFields fields) x ↔ OnCycle fields x := by
  rw [OnCycle, OnCycle, dependsOn_ofFields distinct]

theorem reachesCycle_ofFields (x : String) :
    ReachesCycle (ofFields fields) x ↔ ReachesCycle fields x := by
  simp only [ReachesCycle, onCycle_ofFields distinct, dependsOn_ofFields distinct]

theorem parentsFirst_ofFields (order : List String) :
    ParentsFirst (ofFields fields) order ↔ ParentsFirst fields order := by
  simp only [ParentsFirst, dependsOn_ofFields distinct]

theorem sorts_resolve_ofFields (policy : CyclePolicy) :
    Sorts fields ((ofFields fields).resolve policy) := by
  have sorts := sorts_resolve (nodup_names_ofFields distinct) policy
  obtain ⟨nodup, first, blocked, members⟩ := sorts
  rw [names_ofFields distinct] at blocked
  simp only [names_ofFields distinct] at members
  exact ⟨nodup, (parentsFirst_ofFields distinct _).mp first, blocked, members⟩

/-- **The resolution finds cycles and orders the rest.**  For fields with distinct ids and either
    policy: the resolution is cyclic exactly if some field reaches itself along its parents; if it
    is not, every field is ordered exactly once, after all its derived parents, and none is
    blocked; if it is and cycles invalidate everything, none is ordered and all are blocked, in
    declaration order. -/
theorem resolve_isCyclic_order_blocked (policy : CyclePolicy) :
    (((ofFields fields).resolve policy).isCyclic = true ↔ ∃ x, OnCycle fields x) ∧
    (((ofFields fields).resolve policy).isCyclic = false →
      ((ofFields fields).resolve policy).order.Perm (fields.map Prod.fst) ∧
      ParentsFirst fields ((ofFields fields).resolve policy).order ∧
      ((ofFields fields).resolve policy).blocked = []) ∧
    (((ofFields fields).resolve policy).isCyclic = true → policy = .invalidateAll →
      ((ofFields fields).resolve policy).order = [] ∧
      ((ofFields fields).resolve policy).blocked = fields.map Prod.fst) := by
  have names := nodup_names_ofFields distinct
  have sorts := sorts_resolve_ofFields distinct policy
  refine ⟨?_, ?_, ?_⟩
  · rw [isCyclic_resolve_iff names]
    exact exists_congr (onCycle_ofFields distinct)
  · intro acyclic
    have none : ((ofFields fields).resolve policy).blocked = [] := by
      rw [resolve_of_acyclic (cycles_eq_nil_of_not_isCyclic acyclic)]
    refine ⟨?_, sorts.parentsFirst, none⟩
    rw [List.perm_ext_iff_of_nodup sorts.distinct distinct]
    intro x
    rw [sorts.mem_order x, none]
    exact and_iff_left List.not_mem_nil
  · rintro cyclic rfl
    have reported : (ofFields fields).cycles ≠ [] := by
      simpa [Resolution.isCyclic] using cyclic
    rw [resolve_invalidateAll_of_cyclic reported]
    exact ⟨rfl, names_ofFields distinct⟩

omit distinct in
theorem resolve_isCyclic_order_blocked_entangled :
    (entangled.map Prod.fst).Nodup ∧ (∃ x, OnCycle entangled x) ∧
    ((ofFields entangled).resolve .invalidateAll).order = [] ∧
    ((ofFields entangled).resolve .invalidateAll).blocked = entangled.map Prod.fst := by
  have distinct : (entangled.map Prod.fst).Nodup := by decide
  obtain ⟨cyclic, _, blocks⟩ := resolve_isCyclic_order_blocked distinct .invalidateAll
  have found : ((ofFields entangled).resolve .invalidateAll).isCyclic = true := by cbv
  exact ⟨distinct, cyclic.mp found, blocks found rfl⟩

/-- **Isolation blocks exactly what reaches a cycle.**  The blocked fields are those from which
    following parents leads to a cycle, in declaration order; the ordered ones are all others,
    each once and after all its derived parents. -/
theorem resolve_isolate_order_blocked :
    ((ofFields fields).resolve .isolate).blocked.Sublist (fields.map Prod.fst) ∧
    (∀ x, x ∈ ((ofFields fields).resolve .isolate).blocked ↔ ReachesCycle fields x) ∧
    ((ofFields fields).resolve .isolate).order.Nodup ∧
    (∀ x, x ∈ ((ofFields fields).resolve .isolate).order ↔
      x ∈ fields.map Prod.fst ∧ ¬ ReachesCycle fields x) ∧
    ParentsFirst fields ((ofFields fields).resolve .isolate).order := by
  have sorts := sorts_resolve_ofFields distinct .isolate
  have blocked : ∀ x, x ∈ ((ofFields fields).resolve .isolate).blocked ↔ ReachesCycle fields x := by
    intro x
    rw [mem_blocked_isolate (nodup_names_ofFields distinct), reachesCycle_ofFields distinct]
  refine ⟨sorts.blocked, blocked, sorts.distinct, ?_, sorts.parentsFirst⟩
  intro x
  rw [sorts.mem_order x, blocked x]
  rfl

omit distinct in
theorem resolve_isolate_order_blocked_entangled :
    (entangled.map Prod.fst).Nodup ∧ ReachesCycle entangled "view" ∧
    ¬ ReachesCycle entangled "net" := by
  have distinct : (entangled.map Prod.fst).Nodup := by decide
  obtain ⟨_, blocked, _, ordered, _⟩ := resolve_isolate_order_blocked distinct
  have isolated : ((ofFields entangled).resolve .isolate).blocked = ["a", "b", "c", "view"] := by
    cbv
  have computed : ((ofFields entangled).resolve .isolate).order = ["base", "net"] := by
    cbv
  rw [isolated] at blocked
  rw [computed] at ordered
  exact ⟨distinct, (blocked "view").mp (by decide), ((ordered "net").mp (by decide)).2⟩

theorem isClosedPath_ofFields (cycle : List String) :
    IsClosedPath (ofFields fields) cycle ↔ IsClosedPath fields cycle := by
  simp only [IsClosedPath, dependsOn_ofFields distinct]

/-- **The reported cycles are cycles, and they meet every other.**  Each of them leads from a field
    along derived parents back to that field and repeats nothing else; and whatever way leads along
    derived parents back to where it began has among its own steps the last step of one of them. -/
theorem cycles_isClosedPath_meet :
    (∀ cycle ∈ (ofFields fields).cycles, IsClosedPath fields cycle) ∧
    (∀ x inner, (x :: inner ++ [x]).IsChain (DependsOn fields) →
      ∃ cycle ∈ (ofFields fields).cycles, ∃ u v,
        [u, v] <:+ cycle ∧ [u, v] <:+: x :: inner ++ [x]) := by
  have names := nodup_names_ofFields distinct
  constructor
  · intro cycle reported
    rw [← isClosedPath_ofFields distinct]
    exact (visits_visited names).sound.closed cycle (mem_cycles.mp reported)
  · intro x inner walked
    rw [← dependsOn_ofFields distinct] at walked
    obtain ⟨u, v, edge, cycle, reported, last⟩ := exists_infix_closes names walked
    exact ⟨cycle, mem_cycles.mpr reported, u, v, last, edge⟩

omit distinct in
theorem cycles_isClosedPath_meet_entangled :
    (entangled.map Prod.fst).Nodup ∧ ["a", "b", "c", "a"].IsChain (DependsOn entangled) ∧
    (ofFields entangled).cycles = [["b", "c", "b"], ["a", "b", "c", "a"]] ∧
    IsClosedPath entangled ["b", "c", "b"] ∧
    ∃ cycle ∈ (ofFields entangled).cycles, ∃ u v,
      [u, v] <:+ cycle ∧ [u, v] <:+: ["a", "b", "c", "a"] := by
  have distinct : (entangled.map Prod.fst).Nodup := by decide
  have reported : (ofFields entangled).cycles = [["b", "c", "b"], ["a", "b", "c", "a"]] := by cbv
  have walked : ["a", "b", "c", "a"].IsChain (DependsOn entangled) := by
    simp [entangled, DependsOn]
  obtain ⟨closed, meet⟩ := cycles_isClosedPath_meet distinct
  refine ⟨distinct, walked, reported, closed _ ?_, meet "a" ["b", "c"] walked⟩
  rw [reported]
  exact List.mem_cons_self

end Fields

end FormEngine
