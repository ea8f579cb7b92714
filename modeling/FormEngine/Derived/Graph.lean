/-
  FormEngine/Derived/Graph.lean
  =============================
  **Dependencies between derived fields**, and the order in which to compute them.

  The graph lists for every derived field those of its parents that are derived
  too.  A depth-first walk in declaration order finishes every field after its
  parents; a parent that is met while it is itself under way closes a cycle.  The
  walk keeps the fields under way on a stack, with the parents that each has yet to
  look at, and ends because every turn enters a new field or shortens the stack.

  With a cycle somewhere, either nothing is computed, or all fields but those from
  which a cycle can be reached (`Resolution`).
-/
import FormEngine.Record
import FormEngine.Settings

namespace FormEngine

/-- The derived parents of every derived field, in declaration order. -/
abbrev DependencyGraph := Record (List String)

namespace DependencyGraph

/-! ### Building -/

/-- Each element once, where it comes first. -/
def distinct (seen : List String) : List String → List String
  | [] => []
  | x :: rest => if x ∈ seen then distinct seen rest else x :: distinct (x :: seen) rest

/-- The entries whose name did not come before. -/
def firstEntries (seen : List String) : List (String × List String) → DependencyGraph
  | [] => []
  | e :: rest =>
    if e.1 ∈ seen then firstEntries seen rest else e :: firstEntries (e.1 :: seen) rest

/-- The graph of fields that are given with all their parents.  Parents that are not among the
    fields are left out; of several fields with one id the first counts. -/
def ofFields (fields : List (String × List String)) : DependencyGraph :=
  firstEntries []
    (fields.map (fun e =>
      (e.1, distinct [] (e.2.filter (fun p => (fields.map Prod.fst).contains p)))))

/-! ### Walking -/

/-- Where a field stands in a walk that has come across it. -/
inductive Mark where
  | underWay
  | done
deriving DecidableEq, Repr

/-- The state of a walk. -/
structure Walk where
  marks : Record Mark := []
  /-- The fields under way, from the one that the walk set out from. -/
  path : List String := []
  /-- The fields under way, the last one first, each with the parents that it has yet to look
      at. -/
  stack : List (String × List String) := []
  /-- The fields in the order in which they were done. -/
  postOrder : List String := []
  /-- A closed path for every parent that was found under way. -/
  cycles : List (List String) := []
deriving DecidableEq, Repr

namespace Walk

variable (graph : DependencyGraph) (w : Walk)

/-- Goes on to a field that is new. -/
def enter (x : String) (parents : List String) : Walk :=
  { w with
    marks := w.marks.set x .underWay
    path := w.path ++ [x]
    stack := (x, parents) :: w.stack }

/-- Leaves the last field under way, of which the others on the stack are given. -/
def leave (x : String) (below : List (String × List String)) : Walk :=
  { w with
    marks := w.marks.set x .done
    path := w.path.dropLast
    stack := below
    postOrder := w.postOrder ++ [x] }

/-- Reports the part of the path from a field to the last one as a cycle. -/
def report (x : String) : Walk :=
  { w with cycles := w.cycles ++ [w.path.drop (w.path.idxOf x) ++ [x]] }

/-- Deals with a parent of the last field under way.  A parent that is no field of the graph, of
    which there are none in a graph of fields, is passed over. -/
def look (x : String) : Walk :=
  match w.marks.get? x, graph.get? x with
  | some .underWay, _ => w.report x
  | none, some parents => w.enter x parents
  | _, _ => w

/-- One turn of the walk; there is none when the stack is empty. -/
def turn? : Option Walk :=
  match w.stack with
  | [] => none
  | (x, []) :: below => some (w.leave x below)
  | (x, p :: parents) :: below => some ({ w with stack := (x, parents) :: below }.look graph p)

/-- The fields that the walk has not come across. -/
def unmarked : List String := graph.names.filter (fun x => !w.marks.has x)

/-- The number of turns that the stack asks for, as far as nothing new is entered. -/
def pending : Nat := w.stack.foldr (fun e n => e.2.length + 1 + n) 0

theorem has_set {marks : Record Mark} {x y : String} {m : Mark} (h : marks.has y = true) :
    (marks.set x m).has y = true := by
  rw [Record.has, Record.get?_set]
  split
  · rfl
  · exact h

theorem length_unmarked_leave_le (x : String) (below : List (String × List String)) :
    ((w.leave x below).unmarked graph).length ≤ (w.unmarked graph).length := by
  rw [unmarked, unmarked, ← List.countP_eq_length_filter, ← List.countP_eq_length_filter]
  refine List.countP_mono_left (fun y _ unseen => ?_)
  rw [Bool.not_eq_true'] at unseen ⊢
  cases seen : w.marks.has y with
  | false => rfl
  | true =>
    have still : (w.leave x below).marks.has y = true := has_set seen
    rw [still] at unseen
    cases unseen

/-- Entering a field leaves fewer to come across. -/
theorem length_unmarked_enter_lt {x : String} {parents : List String}
    (new : w.marks.get? x = none) (known : graph.get? x = some parents) :
    ((w.enter x parents).unmarked graph).length < (w.unmarked graph).length := by
  have member : x ∈ graph.names :=
    (Record.has_iff_mem_names graph x).mp (by simp [Record.has, known])
  have fewer : (w.enter x parents).unmarked graph =
      (w.unmarked graph).filter (fun y => !(w.enter x parents).marks.has y) := by
    simp only [unmarked, List.filter_filter]
    refine List.filter_congr (fun y _ => ?_)
    cases seen : w.marks.has y
    · simp
    · have still : (w.enter x parents).marks.has y = true := has_set seen
      simp [still]
  rw [fewer, List.length_filter_lt_length_iff_exists]
  refine ⟨x, List.mem_filter.mpr ⟨member, by simp [Record.has, new]⟩, ?_⟩
  simp [enter, Record.has, Record.get?_set_self]

/-- Every turn either enters a new field, or takes something off the stack and enters none. -/
theorem turn?_decreasing {next : Walk} (turn : w.turn? graph = some next) :
    Prod.Lex (· < ·) (· < ·) ((next.unmarked graph).length, next.pending)
      ((w.unmarked graph).length, w.pending) := by
  unfold turn? at turn
  split at turn
  · cases turn
  · next x below stack =>
    cases turn
    refine Prod.Lex.right' _ (length_unmarked_leave_le graph w x below) ?_
    simp [pending, leave, stack]
  · next x p parents below stack =>
    cases turn
    unfold look
    split
    · refine Prod.Lex.right _ ?_
      simp [pending, report, stack]
    · next new known => exact Prod.Lex.left _ _ (length_unmarked_enter_lt graph _ new known)
    · refine Prod.Lex.right _ ?_
      simp [pending, stack]

end Walk

/-- Takes turns until the stack is empty. -/
def run (graph : DependencyGraph) (w : Walk) : Walk :=
  match turn : w.turn? graph with
  | none => w
  | some next =>
    have := w.turn?_decreasing graph turn
    run graph next
termination_by ((w.unmarked graph).length, w.pending)
decreasing_by assumption

/-- Walks from a field, unless it was come across before. -/
def setOut (graph : DependencyGraph) (w : Walk) (root : String) : Walk :=
  match w.marks.get? root, graph.get? root with
  | none, some parents => graph.run ({ w with path := [], stack := [] }.enter root parents)
  | _, _ => w

/-- The walk over the whole graph. -/
def walk (graph : DependencyGraph) : Walk := graph.names.foldl graph.setOut {}

/-- Every field after its parents, as far as there are no cycles. -/
def postOrder (graph : DependencyGraph) : List String := graph.walk.postOrder

/-- A closed path for every step of the walk back to a field under way. -/
def cycles (graph : DependencyGraph) : List (List String) := graph.walk.cycles

/-! ### Dependents -/

/-- Goes through entries and adds the field of each to those that are affected, if one of its
    parents is; the flag says whether anything was added.  A field that is added counts at once. -/
def sweepFrom (affected : List String) (changed : Bool) :
    List (String × List String) → List String × Bool
  | [] => (affected, changed)
  | e :: rest =>
    if e.1 ∉ affected && e.2.any (fun p => p ∈ affected) then sweepFrom (e.1 :: affected) true rest
    else sweepFrom affected changed rest

/-- Goes through the graph once. -/
def sweep (graph : DependencyGraph) (affected : List String) : List String × Bool :=
  sweepFrom affected false graph

/-- What sweeping adds are fields that were not there, and the change is noted. -/
theorem exists_sweepFrom_eq (entries : List (String × List String)) (affected : List String)
    (changed : Bool) : ∃ new, sweepFrom affected changed entries =
      (new ++ affected, changed || !new.isEmpty) ∧
        ∀ x ∈ new, x ∈ entries.map Prod.fst ∧ x ∉ affected := by
  induction entries generalizing affected changed with
  | nil => exact ⟨[], by simp [sweepFrom], by simp⟩
  | cons e entries ih =>
    rw [sweepFrom]
    split
    · next adds =>
      obtain ⟨new, result, members⟩ := ih (e.1 :: affected) true
      refine ⟨new ++ [e.1], by simp [result], fun x member => ?_⟩
      simp only [Bool.and_eq_true, decide_eq_true_eq] at adds
      rcases List.mem_append.mp member with later | same
      · obtain ⟨listed, other⟩ := members x later
        exact ⟨List.mem_cons_of_mem _ listed, fun inside => other (List.mem_cons_of_mem _ inside)⟩
      · rw [List.mem_singleton.mp same]
        exact ⟨List.mem_cons_self, adds.1⟩
    · obtain ⟨new, result, members⟩ := ih affected changed
      exact ⟨new, result, fun x member =>
        ⟨List.mem_cons_of_mem _ (members x member).1, (members x member).2⟩⟩

/-- The fields that are not affected. -/
def unaffected (graph : DependencyGraph) (affected : List String) : List String :=
  graph.names.filter (fun x => x ∉ affected)

/-- A sweep that changes something leaves fewer fields that are not affected. -/
theorem length_unaffected_sweep_lt {graph : DependencyGraph} {affected : List String}
    (changed : (graph.sweep affected).2 = true) :
    (graph.unaffected (graph.sweep affected).1).length < (graph.unaffected affected).length := by
  obtain ⟨new, result, members⟩ := exists_sweepFrom_eq graph affected false
  rw [sweep, result] at changed ⊢
  cases new with
  | nil => cases changed
  | cons x new =>
    obtain ⟨known, other⟩ := members x List.mem_cons_self
    have fewer : graph.unaffected (x :: new ++ affected) =
        (graph.unaffected affected).filter (fun y => y ∉ x :: new) := by
      simp only [unaffected, List.filter_filter]
      refine List.filter_congr (fun y _ => ?_)
      simp [Bool.and_comm, Bool.and_left_comm]
    rw [fewer, List.length_filter_lt_length_iff_exists]
    exact ⟨x, List.mem_filter.mpr ⟨known, by simpa using other⟩, by simp⟩

/-- The fields, together with all that depend on one of them: sweeps until nothing changes. -/
def withDependents (graph : DependencyGraph) (affected : List String) : List String :=
  match changed : (graph.sweep affected).2 with
  | true =>
    have := length_unaffected_sweep_lt changed
    withDependents graph (graph.sweep affected).1
  | false => (graph.sweep affected).1
termination_by (graph.unaffected affected).length

end DependencyGraph

/-! ### Resolution -/

/-- Which derived fields to compute, in which order, and which are blocked by cycles. -/
structure Resolution where
  /-- The fields to compute, parents first. -/
  order : List String
  cycles : List (List String)
  /-- The fields that must not be computed, in declaration order. -/
  blocked : List String
deriving DecidableEq, Repr

namespace Resolution

/-- There is a cycle. -/
def isCyclic (r : Resolution) : Bool := !r.cycles.isEmpty

/-- A warning for each cycle. -/
def warnings (r : Resolution) : List String :=
  r.cycles.map (fun cycle =>
    "Circular dependency in derived fields: " ++ String.intercalate " -> " cycle)

end Resolution

/-- Orders derived fields under a cycle policy. -/
def DependencyGraph.resolve (policy : CyclePolicy) (graph : DependencyGraph) : Resolution :=
  match graph.cycles, policy with
  | [], _ => ⟨graph.postOrder, [], []⟩
  | cycles, .invalidateAll => ⟨[], cycles, graph.names⟩
  | cycles, .isolate =>
    let blocked := graph.withDependents cycles.flatten
    ⟨graph.postOrder.filter (fun x => x ∉ blocked), cycles,
      graph.names.filter (fun x => x ∈ blocked)⟩

end FormEngine
