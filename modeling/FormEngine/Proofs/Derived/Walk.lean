/-
  FormEngine/Proofs/Derived/Walk.lean
  ===================================
  **What the depth-first walk finds.**

  The walk keeps one invariant (`Found.Sound`): a finished field depends only on
  fields that were finished before it, except across an edge that closes a reported
  cycle, and every reported cycle is a closed path of dependencies without
  repetition.  A visit keeps the invariant, only adds to what was found, and settles
  each of its targets (`visit_sound`): a target is finished, or it was under way
  and its closed path is reported.

  For the whole graph this means that every field is finished exactly once, and that
  every cycle of dependencies has an edge that closes a reported one
  (`exists_infix_closes`): along the other edges the walk finishes strictly
  earlier.
-/
import FormEngine.Proofs.Derived.Dependency
import FormEngine.Proofs.Derived.Descent
import Mathlib.Data.List.Chain

namespace FormEngine.DependencyGraph

open Relation

/-! ### Closed paths -/

/-- A path of dependencies that comes back to where it began and repeats nothing else. -/
def IsClosedPath (fields : List (String × List String)) (cycle : List String) : Prop :=
  ∃ x inner, cycle = x :: inner ++ [x] ∧ (x :: inner).Nodup ∧
    cycle.IsChain (DependsOn fields)

theorem IsClosedPath.onCycle {fields : List (String × List String)} {cycle : List String}
    (closed : IsClosedPath fields cycle) {z : String} (member : z ∈ cycle) : OnCycle fields z := by
  obtain ⟨x, inner, rfl, _, chain⟩ := closed
  have reach : (x :: inner ++ [x]).Pairwise (TransGen (DependsOn fields)) :=
    (chain.imp (fun _ _ => TransGen.single)).pairwise
  have onward : ∀ z ∈ inner ++ [x], TransGen (DependsOn fields) x z :=
    (List.pairwise_cons.mp reach).1
  have back : ∀ z ∈ x :: inner, TransGen (DependsOn fields) z x := fun z h =>
    (List.pairwise_append.mp reach).2.2 z h x List.mem_cons_self
  have start : OnCycle fields x := onward x (by simp)
  rcases List.mem_append.mp member with h | h
  · rcases List.mem_cons.mp h with rfl | h
    · exact start
    · exact (back z (List.mem_cons_of_mem x h)).trans (onward z (List.mem_append_left _ h))
  · rw [List.mem_singleton.mp h]
    exact start

/-- From a field on a cycle there is a way round that leads back to it. -/
theorem exists_isChain_of_onCycle {fields : List (String × List String)} {x : String}
    (h : OnCycle fields x) : ∃ inner, (x :: inner ++ [x]).IsChain (DependsOn fields) := by
  obtain ⟨y, path, step⟩ := TransGen.tail'_iff.mp h
  obtain ⟨inner, chain, last⟩ := List.exists_isChain_cons_of_relationReflTransGen path
  refine ⟨inner, List.isChain_append.mpr ⟨chain, .singleton x, ?_⟩⟩
  intro p isLast q isFirst
  rw [List.getLast?_eq_some_getLast (List.cons_ne_nil x inner), last] at isLast
  cases isLast
  cases isFirst
  exact step

/-! ### Paths under way -/

/-- The fields under way, innermost first: each is a dependency of the next. -/
structure UnderWay (graph : DependencyGraph) (path : List String) : Prop where
  distinct : path.Nodup
  known : ∀ x ∈ path, x ∈ graph.names
  chain : path.IsChain (fun x p => DependsOn graph p x)

/-- The targets of a visit are dependencies of the innermost field under way. -/
def Targets (graph : DependencyGraph) (path targets : List String) : Prop :=
  ∀ p ∈ path.head?, ∀ x ∈ targets, x ∈ graph.names → DependsOn graph p x

/-- The part of the path from the innermost field out to the target. -/
def loop (path : List String) (target : String) : List String :=
  path.takeWhile (fun x => x ≠ target) ++ [target]

theorem closedPath_eq (path : List String) (target : String) :
    closedPath path target = (loop path target).reverse ++ [target] := by
  simp [closedPath, loop]

theorem isPrefix_loop {path : List String} {target : String} (h : target ∈ path) :
    loop path target <+: path := by
  induction path with
  | nil => cases h
  | cons p path ih =>
    by_cases same : p = target
    · subst same
      simp [loop]
    · have later : target ∈ path := (List.mem_cons.mp h).resolve_left (Ne.symm same)
      simpa [loop, same] using ih later

theorem head?_loop {path : List String} {target : String} (h : target ∈ path) :
    (loop path target).head? = path.head? := by
  cases path with
  | nil => cases h
  | cons p path =>
    by_cases same : p = target
    · subst same
      simp [loop]
    · simp [loop, same]

variable {graph : DependencyGraph} {path targets : List String} {x y : String}

/-- A step back to a field under way closes a path. -/
theorem UnderWay.isClosedPath (underWay : UnderWay graph path) (h : x ∈ path)
    (back : ∀ p ∈ path.head?, DependsOn graph p x) : IsClosedPath graph (closedPath path x) := by
  have part : loop path x <+: path := isPrefix_loop h
  refine ⟨x, (path.takeWhile (fun y => y ≠ x)).reverse, rfl, ?_, ?_⟩
  · have distinct : (loop path x).reverse.Nodup :=
      List.nodup_reverse.mpr (part.sublist.nodup underWay.distinct)
    simpa [loop] using distinct
  · have walked := List.IsChain.prefix underWay.chain part
    rw [closedPath_eq, List.isChain_append]
    refine ⟨List.isChain_reverse.mpr walked, .singleton x, ?_⟩
    intro p last y isTarget
    rw [List.getLast?_reverse, head?_loop h] at last
    cases isTarget
    exact back p last

/-- The last edge of a closed path is the step back. -/
theorem closedPath_suffix {p : String} (head : path.head? = some p) (h : x ∈ path) :
    [p, x] <:+ closedPath path x := by
  have first : (loop path x).head? = some p := (head?_loop h).trans head
  obtain ⟨rest, split⟩ := List.head?_eq_some_iff.mp first
  refine ⟨rest.reverse, ?_⟩
  rw [closedPath_eq, split, List.reverse_cons, List.append_assoc]
  rfl

theorem UnderWay.cons (underWay : UnderWay graph path) (fresh : x ∉ path)
    (member : x ∈ graph.names) (step : ∀ p ∈ path.head?, DependsOn graph p x) :
    UnderWay graph (x :: path) where
  distinct := List.nodup_cons.mpr ⟨fresh, underWay.distinct⟩
  known := by
    intro y h
    rcases List.mem_cons.mp h with rfl | h
    · exact member
    · exact underWay.known y h
  chain := underWay.chain.cons step

/-! ### The invariant -/

/-- The edge from `x` to `y` closes a reported cycle. -/
def Found.Closes (w : Found) (x y : String) : Prop := ∃ cycle ∈ w.cycles, [x, y] <:+ cycle

/-- What a walk has found is right, while the fields of `path` are under way. -/
structure Found.Sound (graph : DependencyGraph) (path : List String) (w : Found) : Prop where
  known : ∀ x ∈ w.finished, x ∈ graph.names
  distinct : w.finished.Nodup
  apart : ∀ x ∈ path, x ∉ w.finished
  settled : ∀ x before, (x :: before) <:+ w.finished →
    ∀ y, DependsOn graph x y → y ∈ before ∨ w.Closes x y
  closed : ∀ cycle ∈ w.cycles, IsClosedPath graph cycle

/-- A later state of the walk has found all that an earlier one had. -/
structure Found.Extends (w v : Found) : Prop where
  finished : v.finished ⊆ w.finished
  cycles : v.cycles ⊆ w.cycles

variable {w v u : Found}

theorem Found.Extends.refl (w : Found) : w.Extends w := ⟨List.Subset.refl _, List.Subset.refl _⟩

theorem Found.Extends.trans (h : w.Extends v) (h' : v.Extends u) : w.Extends u :=
  ⟨List.Subset.trans h'.finished h.finished, List.Subset.trans h'.cycles h.cycles⟩

theorem Found.Sound.report (sound : w.Sound graph path)
    (closed : IsClosedPath graph (closedPath path x)) :
    Found.Sound graph path (w.report path x) where
  known := sound.known
  distinct := sound.distinct
  apart := sound.apart
  settled := by
    intro x before part y step
    rcases sound.settled x before part y step with earlier | ⟨cycle, member, last⟩
    · exact Or.inl earlier
    · exact Or.inr ⟨cycle, List.mem_cons_of_mem _ member, last⟩
  closed := by
    intro c member
    rcases List.mem_cons.mp member with rfl | member
    · exact closed
    · exact sound.closed c member

/-- A field all of whose dependencies are settled can be finished. -/
theorem Found.Sound.finish (sound : w.Sound graph (x :: path)) (fresh : x ∉ path)
    (member : x ∈ graph.names)
    (parents : ∀ y, DependsOn graph x y → y ∈ w.finished ∨ w.Closes x y) :
    Found.Sound graph path (w.finish x) where
  known := by
    intro y h
    rcases List.mem_cons.mp h with rfl | h
    · exact member
    · exact sound.known y h
  distinct := List.nodup_cons.mpr ⟨sound.apart x List.mem_cons_self, sound.distinct⟩
  apart := by
    intro y onPath h
    rcases List.mem_cons.mp h with rfl | h
    · exact fresh onPath
    · exact sound.apart y (List.mem_cons_of_mem _ onPath) h
  settled := by
    intro y before part z step
    rcases List.suffix_cons_iff.mp part with whole | part
    · cases whole
      exact parents z step
    · exact sound.settled y before part z step
  closed := sound.closed

/-! ### Visits -/

/-- What a visit of the targets owes: a sound state that has lost nothing, in which each target
    is finished or the closed path back to it is reported. -/
structure Visits (graph : DependencyGraph) (path targets : List String) (w v : Found) : Prop where
  sound : v.Sound graph path
  keeps : v.Extends w
  reached : ∀ x ∈ targets, x ∈ graph.names →
    x ∈ v.finished ∨ x ∈ path ∧ closedPath path x ∈ v.cycles

theorem Visits.cons {rest : List String} (first : v.Extends w) (visits : Visits graph path rest v u)
    (settled : x ∈ graph.names → x ∈ v.finished ∨ x ∈ path ∧ closedPath path x ∈ v.cycles) :
    Visits graph path (x :: rest) w u where
  sound := visits.sound
  keeps := visits.keeps.trans first
  reached := by
    intro y member known
    rcases List.mem_cons.mp member with rfl | member
    · rcases settled known with done | ⟨onPath, reported⟩
      · exact Or.inl (visits.keeps.finished done)
      · exact Or.inr ⟨onPath, visits.keeps.cycles reported⟩
    · exact visits.reached y member known

theorem Targets.tail {rest : List String} (h : Targets graph path (x :: rest)) :
    Targets graph path rest := fun p head y member =>
  h p head y (List.mem_cons_of_mem _ member)

/-- **A visit keeps the invariant and settles its targets.**  The induction is that of the walk:
    one case for each way in which the first target is dealt with. -/
theorem visit_sound (distinct : graph.names.Nodup) (underWay : UnderWay graph path)
    (leads : Targets graph path targets) (sound : w.Sound graph path) :
    Visits graph path targets w (graph.visit path targets w) := by
  induction path, targets, w using visit.induct graph with
  | case1 path w =>
    rw [visit]
    exact ⟨sound, Found.Extends.refl w, fun x member => absurd member List.not_mem_nil⟩
  | case2 path w x rest onPath ih =>
    -- the target is under way: the step back closes a cycle
    have closed : IsClosedPath graph (closedPath path x) :=
      underWay.isClosedPath onPath (fun p head =>
        leads p head x List.mem_cons_self (underWay.known x onPath))
    have first : (w.report path x).Extends w :=
      ⟨List.Subset.refl _, List.subset_cons_self _ _⟩
    rw [visit_of_mem_path onPath]
    exact Visits.cons first (ih underWay leads.tail (sound.report closed))
      (fun _ => Or.inr ⟨onPath, List.mem_cons_self⟩)
  | case3 path w x rest offPath done ih =>
    rw [visit_of_mem_finished offPath done]
    exact Visits.cons (Found.Extends.refl w) (ih underWay leads.tail sound) (fun _ => Or.inl done)
  | case4 path w x rest offPath fresh unknown ih =>
    rw [visit_of_not_mem_names offPath fresh unknown]
    refine Visits.cons (Found.Extends.refl w) (ih underWay leads.tail sound) (fun known => ?_)
    rw [← Record.has_iff_mem_names, Record.has, unknown] at known
    cases known
  | case5 path w x rest offPath fresh parents entry _ ihInner ihRest =>
    have member : x ∈ graph.names := mem_names_of_get? entry
    have dependencies : ∀ y, y ∈ parents → y ∈ graph.names → DependsOn graph x y :=
      fun y listed known => ⟨⟨parents, Record.mem_of_get? entry, listed⟩, known⟩
    have within : UnderWay graph (x :: path) :=
      underWay.cons offPath member (fun p head => leads p head x List.mem_cons_self member)
    have visits : Visits graph (x :: path) parents w (graph.visit (x :: path) parents w) := by
      refine ihInner within ?_ ?_
      · intro p head y listed known
        cases head
        exact dependencies y listed known
      · refine ⟨sound.known, sound.distinct, ?_, sound.settled, sound.closed⟩
        intro y onPath
        rcases List.mem_cons.mp onPath with rfl | onPath
        · exact fresh
        · exact sound.apart y onPath
    -- every dependency of `x` is settled now, so `x` can be finished
    have parentsSettled : ∀ y, DependsOn graph x y →
        y ∈ (graph.visit (x :: path) parents w).finished ∨
          (graph.visit (x :: path) parents w).Closes x y := by
      rintro y ⟨⟨others, listing, listed⟩, known⟩
      have same : graph.get? x = some others :=
        (Record.get?_eq_some_iff distinct).mpr listing
      rw [entry, Option.some.injEq] at same
      subst same
      rcases visits.reached y listed known with done | ⟨onPath, reported⟩
      · exact Or.inl done
      · exact Or.inr ⟨_, reported, closedPath_suffix rfl onPath⟩
    have finished : Found.Sound graph path ((graph.visit (x :: path) parents w).finish x) :=
      visits.sound.finish offPath member parentsSettled
    have first : Found.Extends ((graph.visit (x :: path) parents w).finish x) w :=
      ⟨List.Subset.trans visits.keeps.finished (List.subset_cons_self _ _),
        visits.keeps.cycles⟩
    rw [visit_of_fresh offPath fresh entry]
    exact Visits.cons first (ihRest underWay leads.tail finished)
      (fun _ => Or.inl List.mem_cons_self)

/-! ### The whole graph -/

theorem UnderWay.nil : UnderWay graph [] where
  distinct := List.nodup_nil
  known := List.forall_mem_nil _
  chain := .nil

theorem Found.Sound.start : Found.Sound graph [] {} where
  known := List.forall_mem_nil _
  distinct := List.nodup_nil
  apart := List.forall_mem_nil _
  settled := by
    intro x before part
    cases List.suffix_nil.mp part
  closed := List.forall_mem_nil _

theorem visits_visited (distinct : graph.names.Nodup) :
    Visits graph [] graph.names {} graph.visited := by
  refine visit_sound distinct UnderWay.nil ?_ Found.Sound.start
  intro p head
  cases head

theorem mem_finished_visited (distinct : graph.names.Nodup) :
    x ∈ graph.visited.finished ↔ x ∈ graph.names := by
  have visits := visits_visited distinct
  constructor
  · exact visits.sound.known x
  · intro member
    rcases visits.reached x member member with done | ⟨onPath, _⟩
    · exact done
    · cases onPath

/-- Across an edge that closes no cycle, the dependency was finished before. -/
theorem Found.Sound.idxOf_lt (sound : w.Sound graph path) (done : x ∈ w.finished)
    (step : DependsOn graph x y) (inner : ¬ w.Closes x y) :
    w.finished.idxOf x < w.finished.idxOf y := by
  obtain ⟨later, before, split⟩ := List.append_of_mem done
  have earlier : y ∈ before :=
    (sound.settled x before ⟨later, split.symm⟩ y step).resolve_right inner
  have distinct := sound.distinct
  rw [split] at distinct
  have apart := List.nodup_append.mp distinct
  have xLater : x ∉ later := fun h => apart.2.2 x h x List.mem_cons_self rfl
  have yLater : y ∉ later := fun h => apart.2.2 y h y (List.mem_cons_of_mem _ earlier) rfl
  have differ : x ≠ y := by
    rintro rfl
    exact (List.nodup_cons.mp apart.2.1).1 earlier
  rw [split, List.idxOf_append_of_notMem xLater, List.idxOf_append_of_notMem yLater,
    List.idxOf_cons_self, List.idxOf_cons_ne _ differ]
  omega

/-- Along a path of dependencies the walk finishes strictly earlier, if no edge of the path closes
    a reported cycle. -/
theorem isChain_idxOf_lt (distinct : graph.names.Nodup) (walked : path.IsChain (DependsOn graph))
    (inner : ∀ u v, [u, v] <:+: path → ¬ graph.visited.Closes u v) :
    path.IsChain (fun u v => graph.visited.finished.idxOf u < graph.visited.finished.idxOf v) := by
  rw [List.isChain_iff_forall_rel_of_append_cons_cons] at walked ⊢
  intro u v before after split
  have step : DependsOn graph u v := walked split
  have edge : [u, v] <:+: path := ⟨before, after, by simp [split]⟩
  have done : u ∈ graph.visited.finished := (mem_finished_visited distinct).mpr step.mem_left
  exact (visits_visited distinct).sound.idxOf_lt done step (inner u v edge)

/-- **Every way round has an edge of its own that closes a reported cycle.** -/
theorem exists_infix_closes (distinct : graph.names.Nodup)
    (walked : (x :: path ++ [x]).IsChain (DependsOn graph)) :
    ∃ u v, [u, v] <:+: x :: path ++ [x] ∧ graph.visited.Closes u v := by
  by_contra none
  have earlier := isChain_idxOf_lt distinct walked
    (fun u v edge closes => none ⟨u, v, edge, closes⟩)
  have sorted := earlier.pairwise
  have before := (List.pairwise_append.mp sorted).2.2 x List.mem_cons_self x List.mem_cons_self
  exact Nat.lt_irrefl _ before

end FormEngine.DependencyGraph
