/-
  FormEngine/Proofs/Derived/Descent.lean
  ======================================
  **The walk, without its stack.**

  The walk keeps the fields under way three times: by their marks, on the path, and on
  the stack.  `visit` is the recursion that it stands for: it descends into a field,
  visits the parents of the field one after the other, and finishes it.  There is one
  path, and whether a field is under way or finished is read off the path and what was
  found.

  What ties the two is that marks, path and stack tell the same (`Walk.Shows`).  Every
  turn keeps that, so the walk goes through what the recursion goes through
  (`exists_run_eq_run_visit`) and finds the same (`shows_walk`).
-/
import FormEngine.Derived.Graph
import Mathlib.Data.List.Nodup
import Mathlib.Data.List.TakeWhile

namespace FormEngine.DependencyGraph

/-! ### The recursion -/

/-- What a visit has found so far: the fields it has finished, last finished first, and the
    cycles, last found first. -/
structure Found where
  finished : List String := []
  cycles : List (List String) := []

def Found.finish (f : Found) (x : String) : Found := { f with finished := x :: f.finished }

/-- The closed path that a step back to `target` makes out of the path under way, of which the
    last field comes first. -/
def closedPath (path : List String) (target : String) : List String :=
  target :: (path.takeWhile (fun x => x ≠ target)).reverse ++ [target]

def Found.report (f : Found) (path : List String) (target : String) : Found :=
  { f with cycles := closedPath path target :: f.cycles }

/-- Setting out from a further field leaves fewer to come. -/
theorem length_unaffected_cons_lt (graph : DependencyGraph) {path : List String} {x : String}
    (member : x ∈ graph.names) (fresh : x ∉ path) :
    (graph.unaffected (x :: path)).length < (graph.unaffected path).length := by
  have fewer : graph.unaffected (x :: path) =
      (graph.unaffected path).filter (fun y => y ≠ x) := by
    simp only [unaffected, List.filter_filter]
    refine List.filter_congr (fun y _ => ?_)
    by_cases same : y = x <;> simp [same]
  rw [fewer, List.length_filter_lt_length_iff_exists]
  exact ⟨x, by simp [unaffected, member, fresh], by simp⟩

theorem mem_names_of_get? {graph : DependencyGraph} {x : String} {parents : List String}
    (h : graph.get? x = some parents) : x ∈ graph.names :=
  (Record.has_iff_mem_names graph x).mp (by simp [Record.has, h])

/-- Visits `targets`, one after the other, while the fields of `path` are under way, the
    last one first. -/
def visit (graph : DependencyGraph) (path : List String) (targets : List String) (f : Found) :
    Found :=
  match targets with
  | [] => f
  | x :: rest =>
    if onPath : x ∈ path then visit graph path rest (f.report path x)
    else if x ∈ f.finished then visit graph path rest f
    else
      match entry : graph.get? x with
      | none => visit graph path rest f
      | some parents =>
        have := graph.length_unaffected_cons_lt (mem_names_of_get? entry) onPath
        visit graph path rest ((visit graph (x :: path) parents f).finish x)
termination_by ((graph.unaffected path).length, targets.length)

/-- What a visit of all fields finds. -/
def visited (graph : DependencyGraph) : Found := graph.visit [] graph.names {}

section Visit

variable {graph : DependencyGraph} {path rest parents : List String} {x : String} {f : Found}

theorem visit_of_mem_path (h : x ∈ path) :
    graph.visit path (x :: rest) f = graph.visit path rest (f.report path x) := by
  rw [visit, dif_pos h]

theorem visit_of_mem_finished (h : x ∉ path) (done : x ∈ f.finished) :
    graph.visit path (x :: rest) f = graph.visit path rest f := by
  rw [visit, dif_neg h, if_pos done]

theorem visit_of_not_mem_names (h : x ∉ path) (fresh : x ∉ f.finished)
    (unknown : graph.get? x = none) : graph.visit path (x :: rest) f = graph.visit path rest f := by
  rw [visit, dif_neg h, if_neg fresh]
  split
  · rfl
  · simp_all

theorem visit_of_fresh (h : x ∉ path) (fresh : x ∉ f.finished)
    (entry : graph.get? x = some parents) :
    graph.visit path (x :: rest) f =
      graph.visit path rest ((graph.visit (x :: path) parents f).finish x) := by
  rw [visit, dif_neg h, if_neg fresh]
  split <;> simp_all

end Visit

/-! ### What the walk keeps -/

/-- The walk has come to what a visit has found, while the fields of `path` are under way, the
    last one first.  Its marks, its path and its stack tell the same. -/
structure Walk.Shows (w : Walk) (path : List String) (f : Found) : Prop where
  underWay : ∀ x, w.marks.get? x = some .underWay ↔ x ∈ path
  done : ∀ x, w.marks.get? x = some .done ↔ x ∈ f.finished
  distinct : path.Nodup
  trail : w.path = path.reverse
  nodes : w.stack.map Prod.fst = path
  postOrder : w.postOrder = f.finished.reverse
  cycles : w.cycles = f.cycles.reverse

/-- From the target on, a path is what the closed path consists of. -/
theorem closedPath_eq_drop {path : List String} {x : String} (distinct : path.Nodup)
    (member : x ∈ path) :
    closedPath path x = path.reverse.drop (path.reverse.idxOf x) ++ [x] := by
  obtain ⟨later, earlier, rfl⟩ := List.append_of_mem member
  have notLater : x ∉ later := fun inside =>
    (List.nodup_append.mp distinct).2.2 x inside x List.mem_cons_self rfl
  have notEarlier : x ∉ earlier.reverse := fun inside =>
    (List.nodup_cons.mp (List.nodup_append.mp distinct).2.1).1 (List.mem_reverse.mp inside)
  have upTo : (later ++ x :: earlier).takeWhile (fun y => y ≠ x) = later := by
    rw [List.takeWhile_append_of_pos (fun y inside => ?_)]
    · simp
    · exact decide_eq_true (fun same => notLater (same ▸ inside))
  have turned : (later ++ x :: earlier).reverse = earlier.reverse ++ x :: later.reverse := by simp
  rw [closedPath, upTo, turned, List.idxOf_append_of_notMem notEarlier, List.idxOf_cons_self,
    Nat.add_zero, List.drop_left]

namespace Walk

variable {graph : DependencyGraph} {w : Walk} {path : List String} {f : Found} {x : String}
  {parents : List String} {below : List (String × List String)}

theorem Shows.get?_eq_none (shows_ : w.Shows path f) (offPath : x ∉ path)
    (fresh : x ∉ f.finished) : w.marks.get? x = none := by
  cases mark : w.marks.get? x with
  | none => rfl
  | some m =>
    cases m with
    | underWay => exact absurd ((shows_.underWay x).mp mark) offPath
    | done => exact absurd ((shows_.done x).mp mark) fresh

theorem Shows.enter (shows_ : w.Shows path f) (offPath : x ∉ path) (fresh : x ∉ f.finished)
    (parents : List String) : (w.enter x parents).Shows (x :: path) f where
  underWay y := by
    simp only [Walk.enter, Record.get?_set, List.mem_cons]
    by_cases same : y = x
    · simp [same]
    · simp [same, shows_.underWay]
  done y := by
    simp only [Walk.enter, Record.get?_set]
    by_cases same : y = x
    · simp [same, fresh]
    · simp [same, shows_.done]
  distinct := List.nodup_cons.mpr ⟨offPath, shows_.distinct⟩
  trail := by simp [Walk.enter, shows_.trail]
  nodes := by simp [Walk.enter, shows_.nodes]
  postOrder := shows_.postOrder
  cycles := shows_.cycles

theorem Shows.leave (shows_ : w.Shows (x :: path) f) (stack : w.stack = (x, []) :: below) :
    (w.leave x below).Shows path (f.finish x) where
  underWay y := by
    simp only [Walk.leave, Record.get?_set]
    by_cases same : y = x
    · simp [same, (List.nodup_cons.mp shows_.distinct).1]
    · simp [same, shows_.underWay]
  done y := by
    simp only [Walk.leave, Record.get?_set, Found.finish, List.mem_cons]
    by_cases same : y = x
    · simp [same]
    · simp [same, shows_.done]
  distinct := (List.nodup_cons.mp shows_.distinct).2
  trail := by simp [Walk.leave, shows_.trail]
  nodes := by
    have nodes := shows_.nodes
    rw [stack] at nodes
    exact (List.cons.inj nodes).2
  postOrder := by simp [Walk.leave, Found.finish, shows_.postOrder]
  cycles := shows_.cycles

theorem Shows.report (shows_ : w.Shows path f) (onPath : x ∈ path) :
    (w.report x).Shows path (f.report path x) where
  underWay := shows_.underWay
  done := shows_.done
  distinct := shows_.distinct
  trail := shows_.trail
  nodes := shows_.nodes
  postOrder := shows_.postOrder
  cycles := by
    simp [Walk.report, Found.report, shows_.cycles, shows_.trail,
      closedPath_eq_drop shows_.distinct onPath]

/-- Taking a parent off the top of the stack changes nothing else. -/
theorem Shows.drop {p : String} (shows_ : w.Shows path f)
    (stack : w.stack = (x, p :: parents) :: below) :
    Shows { w with stack := (x, parents) :: below } path f where
  underWay := shows_.underWay
  done := shows_.done
  distinct := shows_.distinct
  trail := shows_.trail
  nodes := by
    have nodes := shows_.nodes
    rw [stack] at nodes
    exact nodes
  postOrder := shows_.postOrder
  cycles := shows_.cycles

end Walk

/-! ### Turns -/

section Turns

variable {graph : DependencyGraph} {w next : Walk} {path targets : List String} {f : Found}
  {x : String} {below : List (String × List String)}

theorem run_of_turn? (turn : w.turn? graph = some next) : graph.run w = graph.run next := by
  rw [run]
  split
  · next none =>
    rw [turn] at none
    cases none
  · next other same =>
    rw [turn, Option.some.injEq] at same
    rw [same]

theorem run_of_stack_nil (empty : w.stack = []) : graph.run w = w := by
  rw [run]
  split
  · rfl
  · next other turn =>
    rw [Walk.turn?, empty] at turn
    cases turn

theorem run_of_stack_done (stack : w.stack = (x, []) :: below) :
    graph.run w = graph.run (w.leave x below) :=
  run_of_turn? (by rw [Walk.turn?, stack])

theorem run_of_stack_look {p : String} {parents : List String}
    (stack : w.stack = (x, p :: parents) :: below) :
    graph.run w = graph.run ({ w with stack := (x, parents) :: below }.look graph p) :=
  run_of_turn? (by rw [Walk.turn?, stack])

/-- **The walk goes through what a visit goes through.**  From where a visit of the parents on top
    of the stack begins, the walk comes to where the visit ends: nothing is left of these parents,
    what was below is untouched, and what was found is the same.  The induction is that of the
    visit. -/
theorem exists_run_eq_run_visit (graph : DependencyGraph) (shows_ : w.Shows path f)
    (stack : w.stack = (x, targets) :: below) :
    ∃ v, graph.run w = graph.run v ∧ v.stack = (x, []) :: below ∧
      v.Shows path (graph.visit path targets f) := by
  induction path, targets, f using visit.induct graph generalizing w x below with
  | case1 path f =>
    rw [visit]
    exact ⟨w, rfl, stack, shows_⟩
  | case2 path f p rest onPath ih =>
    have looks : Walk.look graph { w with stack := (x, rest) :: below } p =
        Walk.report { w with stack := (x, rest) :: below } p := by
      rw [Walk.look, (shows_.underWay p).mpr onPath]
    obtain ⟨v, onward, stack', shows'⟩ := ih ((shows_.drop stack).report onPath) rfl
    rw [visit_of_mem_path onPath, run_of_stack_look stack, looks]
    exact ⟨v, onward, stack', shows'⟩
  | case3 path f p rest offPath done ih =>
    have looks : Walk.look graph { w with stack := (x, rest) :: below } p =
        { w with stack := (x, rest) :: below } := by
      rw [Walk.look, (shows_.done p).mpr done]
    obtain ⟨v, onward, stack', shows'⟩ := ih (shows_.drop stack) rfl
    rw [visit_of_mem_finished offPath done, run_of_stack_look stack, looks]
    exact ⟨v, onward, stack', shows'⟩
  | case4 path f p rest offPath fresh unknown ih =>
    have looks : Walk.look graph { w with stack := (x, rest) :: below } p =
        { w with stack := (x, rest) :: below } := by
      rw [Walk.look, shows_.get?_eq_none offPath fresh, unknown]
    obtain ⟨v, onward, stack', shows'⟩ := ih (shows_.drop stack) rfl
    rw [visit_of_not_mem_names offPath fresh unknown, run_of_stack_look stack, looks]
    exact ⟨v, onward, stack', shows'⟩
  | case5 path f p rest offPath fresh parents entry _ ihInner ihRest =>
    have looks : Walk.look graph { w with stack := (x, rest) :: below } p =
        Walk.enter { w with stack := (x, rest) :: below } p parents := by
      rw [Walk.look, shows_.get?_eq_none offPath fresh, entry]
    -- down into the field, back out of it, and on with the rest
    obtain ⟨u, down, stack', shows'⟩ :=
      ihInner ((shows_.drop stack).enter offPath fresh parents) rfl
    obtain ⟨v, onward, stack'', shows''⟩ := ihRest (shows'.leave stack') rfl
    rw [visit_of_fresh offPath fresh entry, run_of_stack_look stack, looks, down,
      run_of_stack_done stack']
    exact ⟨v, onward, stack'', shows''⟩

/-- From one field after the other, the walk finds what a visit of these fields finds. -/
theorem shows_foldl_setOut (shows_ : w.Shows [] f) :
    (targets.foldl graph.setOut w).Shows [] (graph.visit [] targets f) := by
  induction targets generalizing w f with
  | nil =>
    rw [visit]
    exact shows_
  | cons x rest ih =>
    rw [List.foldl_cons]
    have offPath : x ∉ [] := List.not_mem_nil
    by_cases done : x ∈ f.finished
    · have stays : graph.setOut w x = w := by rw [setOut, (shows_.done x).mpr done]
      rw [visit_of_mem_finished offPath done, stays]
      exact ih shows_
    have new := shows_.get?_eq_none offPath done
    cases entry : graph.get? x with
    | none =>
      have stays : graph.setOut w x = w := by rw [setOut, new, entry]
      rw [visit_of_not_mem_names offPath done entry, stays]
      exact ih shows_
    | some parents =>
      have start : Walk.Shows { w with path := [], stack := [] } [] f :=
        ⟨shows_.underWay, shows_.done, shows_.distinct, rfl, rfl, shows_.postOrder, shows_.cycles⟩
      obtain ⟨v, onward, stack, shows'⟩ :=
        exists_run_eq_run_visit graph (start.enter offPath done parents) rfl
      have walked : graph.setOut w x = v.leave x [] := by
        rw [setOut, new, entry]
        exact onward.trans ((run_of_stack_done stack).trans (run_of_stack_nil rfl))
      rw [visit_of_fresh offPath done entry, walked]
      exact ih (shows'.leave stack)

theorem shows_start : Walk.Shows {} [] {} where
  underWay x := by simp
  done x := by simp
  distinct := List.nodup_nil
  trail := rfl
  nodes := rfl
  postOrder := rfl
  cycles := rfl

/-- **The walk over the whole graph finds what the visit of all its fields finds.** -/
theorem shows_walk (graph : DependencyGraph) : graph.walk.Shows [] graph.visited :=
  shows_foldl_setOut shows_start

theorem postOrder_eq (graph : DependencyGraph) : graph.postOrder = graph.visited.finished.reverse :=
  graph.shows_walk.postOrder

theorem cycles_eq (graph : DependencyGraph) : graph.cycles = graph.visited.cycles.reverse :=
  graph.shows_walk.cycles

end Turns

end FormEngine.DependencyGraph
