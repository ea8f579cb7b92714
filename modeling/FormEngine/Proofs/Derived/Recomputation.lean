/-
  FormEngine/Proofs/Derived/Recomputation.lean
  ============================================
  **A recomputation agrees with its own result.**

  The pass over the derived fields works on one value map that changes as it goes.
  Afterwards every derived field that no cycle blocks nevertheless has the outcome
  that its expression has under the *final* map (`DerivedUpdate.Recomputes`).  Two
  facts carry this: a computation reads only the parents of its field
  (`Derivation.compute_congr`), and in an order that puts parents first no parent is
  written after its child (`parents_unchanged`).
-/
import FormEngine.Derived.Update
import FormEngine.Proofs.Derived.Resolution
import FormEngine.Proofs.Expression.NumeralLimit

namespace FormEngine

/-! ### What a computation reads -/

namespace Derivation

variable {d : Derivation} {settings : Settings} {aliases : Record String}
  {values values' : Record Value} {occasion : Occasion}

/-- A computation reads nothing but the parents of its field. -/
theorem compute_congr (agree : ∀ p ∈ d.parents, values.get? p = values'.get? p) :
    d.compute settings aliases values occasion = d.compute settings aliases values' occasion := by
  have missing : d.missingParents values = d.missingParents values' := by
    refine List.filter_congr (fun p member => ?_)
    rw [Record.has, Record.has, agree p member]
  have bound : d.parentBindings values = d.parentBindings values' := by
    refine congrArg Record.ofEntries (List.filterMap_congr (fun p member => ?_))
    rw [agree p member]
  rw [compute, compute, missing, bindings, bindings, bound]

end Derivation

/-! ### Outcomes in an update -/

namespace DerivedUpdate

variable {u w : DerivedUpdate} {values : Record Value} {id x : String}

/-- The update shows this outcome of a field: the new value and no failure, or the failure under
    the field's id and the value from before. -/
def Shows (u : DerivedUpdate) (values : Record Value) (id : String) :
    Except DerivedFault Value → Prop
  | .ok v => u.values.get? id = some v ∧ u.errors.get? id = none
  | .error fault => u.errors.get? id = some ⟨id, fault⟩ ∧ u.values.get? id = values.get? id

/-- Two updates have the same value and the same failure under an id. -/
def AgreesOn (u w : DerivedUpdate) (id : String) : Prop :=
  u.values.get? id = w.values.get? id ∧ u.errors.get? id = w.errors.get? id

theorem AgreesOn.trans {v : DerivedUpdate} (h : u.AgreesOn w id) (h' : w.AgreesOn v id) :
    u.AgreesOn v id :=
  ⟨h.1.trans h'.1, h.2.trans h'.2⟩

theorem AgreesOn.symm (h : u.AgreesOn w id) : w.AgreesOn u id :=
  ⟨h.1.symm, h.2.symm⟩

theorem AgreesOn.shows {outcome : Except DerivedFault Value} (agree : u.AgreesOn w id)
    (shows_ : w.Shows values id outcome) : u.Shows values id outcome := by
  cases outcome with
  | ok v => exact ⟨agree.1.trans shows_.1, agree.2.trans shows_.2⟩
  | error fault => exact ⟨agree.2.trans shows_.1, agree.1.trans shows_.2⟩

theorem settle_agreesOn (outcome : Except DerivedFault Value) (other : id ≠ x) :
    (u.settle x outcome).AgreesOn u id := by
  cases outcome with
  | ok v => exact ⟨Record.get?_set_of_ne u.values v other, rfl⟩
  | error fault => exact ⟨rfl, Record.get?_set_of_ne u.errors ⟨x, fault⟩ other⟩

/-- A field that had its value from before and no failure shows the outcome it is settled with. -/
theorem settle_shows (outcome : Except DerivedFault Value)
    (before : u.values.get? id = values.get? id) (clean : u.errors.get? id = none) :
    (u.settle id outcome).Shows values id outcome := by
  cases outcome with
  | ok v => exact ⟨Record.get?_set_self u.values id v, clean⟩
  | error fault => exact ⟨Record.get?_set_self u.errors id ⟨id, fault⟩, before⟩

/-- The update with a circular failure reported for each of the fields. -/
def reportAll (u : DerivedUpdate) (blocked : List String) : DerivedUpdate :=
  blocked.foldl (fun u id => u.report id .circular) u

theorem values_reportAll (blocked : List String) (u : DerivedUpdate) :
    (u.reportAll blocked).values = u.values := by
  induction blocked generalizing u with
  | nil => rfl
  | cons x blocked ih => exact ih (u.report x .circular)

/-- Exactly the blocked fields are reported as circular. -/
theorem errors_reportAll (blocked : List String) (u : DerivedUpdate) (id : String) :
    (u.reportAll blocked).errors.get? id =
      if id ∈ blocked then some ⟨id, .circular⟩ else u.errors.get? id := by
  induction blocked generalizing u with
  | nil => rfl
  | cons x blocked ih =>
    rw [reportAll, List.foldl_cons, ← reportAll, ih (u.report x .circular)]
    by_cases later : id ∈ blocked
    · rw [if_pos later, if_pos (List.mem_cons_of_mem _ later)]
    · rw [if_neg later, report, Record.get?_set]
      by_cases same : id = x
      · subst same
        rw [if_pos rfl, if_pos List.mem_cons_self]
      · rw [if_neg same, if_neg (by simp [same, later])]

end DerivedUpdate

/-! ### Fields and their dependencies -/

namespace Schema

variable (s : Schema)

/-- The derived fields with all their parents, in declaration order. -/
def parentLists : List (String × List String) :=
  s.fields.filterMap (fun f => f.derivation?.map (fun d => (f.id, d.parents)))

theorem ids_parentLists : s.parentLists.map Prod.fst = s.derivedFields.map Field.id := by
  rw [parentLists, derivedFields]
  induction s.fields with
  | nil => rfl
  | cons f fields ih =>
    cases derivation : f.derivation? with
    | none => simpa [derivation, Field.isDerived] using ih
    | some d => simpa [derivation, Field.isDerived] using ih

theorem nodup_ids_parentLists : (s.parentLists.map Prod.fst).Nodup := by
  rw [ids_parentLists]
  exact s.ids_nodup.sublist (List.filter_sublist.map Field.id)

variable {s} {f : Field} {d : Derivation}

theorem mem_derivedFields_iff :
    f ∈ s.derivedFields ↔ f ∈ s.fields ∧ ∃ d, f.derivation? = some d := by
  rw [derivedFields, List.mem_filter, Field.isDerived, Option.isSome_iff_exists]

theorem mem_ids_parentLists {id : String} :
    id ∈ s.parentLists.map Prod.fst ↔ ∃ f ∈ s.derivedFields, f.id = id := by
  rw [ids_parentLists, List.mem_map]

theorem mem_parentLists (member : f ∈ s.fields) (derived : f.derivation? = some d) :
    (f.id, d.parents) ∈ s.parentLists :=
  List.mem_filterMap.mpr ⟨f, member, by rw [derived]; rfl⟩

theorem sorts_resolution (settings : Settings) (s : Schema) :
    DependencyGraph.Sorts s.parentLists (s.resolution settings) :=
  sorts_resolve_ofFields s.nodup_ids_parentLists settings.cyclePolicy

theorem dependsOn_of_mem_parents {p : String} (member : f ∈ s.fields)
    (derived : f.derivation? = some d) (parent : p ∈ d.parents)
    (isDerived : p ∈ s.parentLists.map Prod.fst) : DependsOn s.parentLists f.id p :=
  ⟨⟨d.parents, mem_parentLists member derived, parent⟩, isDerived⟩

/-! ### Steps and runs of the pass -/

section Pass

open DerivedUpdate

variable {settings : Settings} {values : Record Value} {now : Nat} {u v w : DerivedUpdate}
  {id x : String} {order before after : List String}

theorem recompute_of_derived (member : f ∈ s.fields) (derived : f.derivation? = some d) :
    s.recompute settings now w f.id =
      (do return w.settle f.id (← d.compute settings (s.parentAliases d) w.values ⟨now, f.id⟩)) := by
  rw [recompute, field?_of_mem member, Option.bind_some, derived]

/-- A step of the pass settles its field, if it is derived, with some outcome. -/
theorem recompute_cases (step : s.recompute settings now w x = .ok u) :
    u = w ∨ ∃ outcome, u = w.settle x outcome := by
  unfold recompute at step
  split at step
  · cases step
    exact Or.inl rfl
  · obtain ⟨outcome, _, settled⟩ := Except.bind_eq_ok_iff.mp step
    cases settled
    exact Or.inr ⟨outcome, rfl⟩

theorem recompute_agreesOn (step : s.recompute settings now w x = .ok u) (other : id ≠ x) :
    u.AgreesOn w id := by
  rcases recompute_cases step with rfl | ⟨outcome, rfl⟩
  · exact ⟨rfl, rfl⟩
  · exact settle_agreesOn outcome other

theorem foldlM_recompute_agreesOn (run : order.foldlM (s.recompute settings now) w = .ok u)
    (other : id ∉ order) : u.AgreesOn w id := by
  induction order generalizing w with
  | nil =>
    cases run
    exact ⟨rfl, rfl⟩
  | cons x order ih =>
    rw [List.foldlM_cons] at run
    obtain ⟨v, step, rest⟩ := Except.bind_eq_ok_iff.mp run
    rw [List.mem_cons, not_or] at other
    exact (ih rest other.2).trans (recompute_agreesOn step other.1)

/-- The fields that the resolution orders are derived and not blocked. -/
theorem exists_derivation_of_mem_order (ordered : x ∈ (s.resolution settings).order) :
    ∃ f ∈ s.fields, ∃ d, f.id = x ∧ f.derivation? = some d ∧
      f.id ∉ (s.resolution settings).blocked := by
  obtain ⟨isDerived, notBlocked⟩ := ((sorts_resolution settings s).mem_order x).mp ordered
  obtain ⟨f, derivedField, rfl⟩ := mem_ids_parentLists.mp isDerived
  obtain ⟨member, d, derived⟩ := mem_derivedFields_iff.mp derivedField
  exact ⟨f, member, d, rfl, derived, notBlocked⟩

/-- In the order of the resolution, no parent of a field stands at the field's place or later. -/
theorem not_mem_of_mem_parents {p : String}
    (split : (s.resolution settings).order = before ++ f.id :: after)
    (member : f ∈ s.fields) (derived : f.derivation? = some d) (parent : p ∈ d.parents) :
    p ∉ f.id :: after := by
  intro later
  have sorts := sorts_resolution settings s
  have first := sorts.parentsFirst
  have distinct := sorts.distinct
  rw [split] at first distinct
  have ordered : p ∈ (s.resolution settings).order := by
    rw [split]
    exact List.mem_append_right before later
  have isDerived := ((sorts.mem_order p).mp ordered).1
  exact first.not_dependsOn distinct later
    (dependsOn_of_mem_parents member derived parent isDerived)

/-- From a field on, a run in the order of the resolution no longer writes the field's parents. -/
theorem parents_unchanged (split : (s.resolution settings).order = before ++ f.id :: after)
    (member : f ∈ s.fields) (derived : f.derivation? = some d)
    (run : (f.id :: after).foldlM (s.recompute settings now) w = .ok u) :
    ∀ p ∈ d.parents, u.values.get? p = w.values.get? p := by
  intro p parent
  have notLater := not_mem_of_mem_parents split member derived parent
  exact (foldlM_recompute_agreesOn run notLater).1

/-- What the rest of a run makes of one field: its outcome is that under the final values. -/
theorem shows_of_run (split : (s.resolution settings).order = before ++ f.id :: after)
    (member : f ∈ s.fields) (derived : f.derivation? = some d)
    (run : (f.id :: after).foldlM (s.recompute settings now) w = .ok u)
    (start : w.values.get? f.id = values.get? f.id) (clean : w.errors.get? f.id = none) :
    ∃ outcome, d.compute settings (s.parentAliases d) u.values ⟨now, f.id⟩ = .ok outcome ∧
      u.Shows values f.id outcome := by
  have unchanged := parents_unchanged split member derived run
  rw [List.foldlM_cons] at run
  obtain ⟨v, step, rest⟩ := Except.bind_eq_ok_iff.mp run
  rw [recompute_of_derived member derived] at step
  obtain ⟨outcome, computed, settled⟩ := Except.bind_eq_ok_iff.mp step
  cases settled
  have notLater : f.id ∉ after := ((sorts_resolution settings s).not_mem_of_split split).2
  refine ⟨outcome, ?_, ?_⟩
  · rw [Derivation.compute_congr unchanged]
    exact computed
  · exact (foldlM_recompute_agreesOn rest notLater).shows (settle_shows outcome start clean)

/-! ### Whole recomputations -/

/-- The state in which the pass begins: blocked fields are reported. -/
def passStart (settings : Settings) (s : Schema) (values : Record Value) : DerivedUpdate :=
  (s.resolution settings).blocked.foldl (fun u id => u.report id .circular) { values }

theorem values_passStart : (passStart settings s values).values = values :=
  values_reportAll _ _

theorem errors_passStart : (passStart settings s values).errors.get? id =
    if id ∈ (s.resolution settings).blocked then some ⟨id, .circular⟩ else none :=
  errors_reportAll _ _ id

theorem update_eq_foldlM : s.update settings values now =
    (s.resolution settings).order.foldlM (s.recompute settings now) (passStart settings s values) :=
  rfl

theorem exists_run_of_update (h : s.update settings values now = .ok u)
    (split : (s.resolution settings).order = before ++ x :: after) :
    ∃ w, before.foldlM (s.recompute settings now) (passStart settings s values) = .ok w ∧
      (x :: after).foldlM (s.recompute settings now) w = .ok u := by
  rw [update_eq_foldlM, split, List.foldlM_append] at h
  exact Except.bind_eq_ok_iff.mp h

end Pass

end Schema

/-- `u` is what a recomputation from `values` at the time `now` has to give.  Fields that are not
    derived are as before and without failure; blocked fields have a circular failure and their
    value from before; every other derived field shows the outcome of its computation under the
    values of `u` itself. -/
structure DerivedUpdate.Recomputes (u : DerivedUpdate) (settings : Settings) (s : Schema)
    (values : Record Value) (now : Nat) : Prop where
  plain : ∀ id, (∀ f ∈ s.derivedFields, f.id ≠ id) →
    u.values.get? id = values.get? id ∧ u.errors.get? id = none
  blocked : ∀ f ∈ s.derivedFields, f.id ∈ (s.resolution settings).blocked →
    u.Shows values f.id (.error .circular)
  computed : ∀ f ∈ s.fields, ∀ d, f.derivation? = some d →
    f.id ∉ (s.resolution settings).blocked →
      ∃ outcome, d.compute settings (s.parentAliases d) u.values ⟨now, f.id⟩ = .ok outcome ∧
        u.Shows values f.id outcome

namespace Schema

open DerivedUpdate

variable {settings : Settings} {s : Schema} {values : Record Value} {now : Nat}
  {u : DerivedUpdate}

theorem recomputes_of_update (h : s.update settings values now = .ok u) :
    u.Recomputes settings s values now := by
  have sorts := sorts_resolution settings s
  have frame : ∀ id ∉ (s.resolution settings).order,
      u.AgreesOn (passStart settings s values) id := fun id other =>
    foldlM_recompute_agreesOn h other
  refine ⟨?_, ?_, ?_⟩
  · intro id plain
    have notDerived : id ∉ s.parentLists.map Prod.fst := by
      intro isDerived
      obtain ⟨f, member, same⟩ := mem_ids_parentLists.mp isDerived
      exact plain f member same
    have notOrdered : id ∉ (s.resolution settings).order := fun ordered =>
      notDerived ((sorts.mem_order id).mp ordered).1
    have notBlocked : id ∉ (s.resolution settings).blocked := fun isBlocked =>
      notDerived (sorts.blocked.subset isBlocked)
    have agree := frame id notOrdered
    rw [AgreesOn, values_passStart, errors_passStart, if_neg notBlocked] at agree
    exact agree
  · intro f _ isBlocked
    have notOrdered : f.id ∉ (s.resolution settings).order := fun ordered =>
      ((sorts.mem_order f.id).mp ordered).2 isBlocked
    have agree := frame f.id notOrdered
    rw [AgreesOn, values_passStart, errors_passStart, if_pos isBlocked] at agree
    exact ⟨agree.2, agree.1⟩
  · intro f member d derived notBlocked
    have isDerived : f.id ∈ s.parentLists.map Prod.fst :=
      List.mem_map_of_mem (mem_parentLists member derived)
    obtain ⟨before, after, split⟩ :=
      List.append_of_mem ((sorts.mem_order f.id).mpr ⟨isDerived, notBlocked⟩)
    obtain ⟨w, early, late⟩ := exists_run_of_update h split
    have notEarlier : f.id ∉ before := (sorts.not_mem_of_split split).1
    have agree := foldlM_recompute_agreesOn early notEarlier
    rw [AgreesOn, values_passStart, errors_passStart, if_neg notBlocked] at agree
    exact shows_of_run split member derived late agree.1 agree.2

theorem exists_recompute_eq_ok (short : settings.maxExpressionLength ≤ digitLimit)
    (s : Schema) (now : Nat) (w : DerivedUpdate) (id : String) :
    ∃ v, s.recompute settings now w id = .ok v := by
  unfold recompute
  split
  · exact ⟨w, rfl⟩
  · next d _ =>
    obtain ⟨outcome, computed⟩ :=
      exists_compute_eq_ok short d (s.parentAliases d) w.values ⟨now, id⟩
    exact ⟨w.settle id outcome, by rw [computed]; rfl⟩

/-- Within the limit on numerals, every update succeeds. -/
theorem exists_update_eq_ok (short : settings.maxExpressionLength ≤ digitLimit) (s : Schema)
    (values : Record Value) (now : Nat) : ∃ u, s.update settings values now = .ok u := by
  rw [update_eq_foldlM]
  generalize passStart settings s values = start
  induction (s.resolution settings).order generalizing start with
  | nil => exact ⟨start, rfl⟩
  | cons x order ih =>
    obtain ⟨v, step⟩ := exists_recompute_eq_ok short s now start x
    obtain ⟨u, rest⟩ := ih v
    exact ⟨u, by rw [List.foldlM_cons, step]; exact rest⟩

/-- **Every update is a recomputation that agrees with its own result.**  As long as expressions
    are not allowed to be longer than the limit on numerals, an update returns; fields that are not
    derived stay as they are; every blocked field keeps its value and is reported as circular; and
    every other derived field shows the outcome that its expression has under the final values. -/
theorem exists_update_recomputes (short : settings.maxExpressionLength ≤ digitLimit) (s : Schema)
    (values : Record Value) (now : Nat) :
    ∃ u, s.update settings values now = .ok u ∧ u.Recomputes settings s values now := by
  obtain ⟨u, updated⟩ := exists_update_eq_ok short s values now
  exact ⟨u, updated, recomputes_of_update updated⟩

/-- A field that asks for a rate, which the form does not have. -/
def totalField : Field where
  id := "total"
  type := .number
  label := "Total"
  derivation? := some { parents := ["price", "rate"], logic := "price * rate" }

/-- A field that is its own parent. -/
def loopField : Field where
  id := "loop"
  type := .number
  label := "Loop"
  derivation? := some { parents := ["loop"], logic := "loop + 1" }

/-- A form with a required field, a field that is computed from it, and two that cannot be. -/
def ledger : Schema where
  id := "ledger"
  name := "Ledger"
  fields := [
    { id := "price", type := .number, label := "Price", required := true },
    { id := "tax", type := .number, label := "Tax",
      derivation? := some { parents := ["price"], logic := "price / 5" } },
    totalField,
    loopField]
  ids_nodup := by decide

/-- Settings with the longest expressions, under which a cycle blocks only what reaches it. -/
def isolating : Settings where
  maxExpressionLength := 4300
  cyclePolicy := .isolate

theorem exists_update_recomputes_ledger :
    isolating.maxExpressionLength ≤ digitLimit ∧
    ∃ u, ledger.update isolating [("price", .int 40), ("loop", .int 1)] = .ok u ∧
      u.values.get? "price" = some (.int 40) ∧
      u.values.get? "loop" = some (.int 1) ∧
      u.errors.get? "loop" = some ⟨"loop", .circular⟩ ∧
      u.errors.get? "total" = some ⟨"total", .missingParents ["rate"]⟩ := by
  have short : isolating.maxExpressionLength ≤ digitLimit := by decide
  obtain ⟨u, updated, plain, blocked, computed⟩ :=
    exists_update_recomputes short ledger [("price", .int 40), ("loop", .int 1)] 0
  have isolated : (ledger.resolution isolating).blocked = ["loop"] := by cbv
  rw [isolated] at blocked computed
  have price : u.values.get? "price" = some (.int 40) := (plain "price" (by decide)).1
  have rate : u.values.get? "rate" = none := (plain "rate" (by decide)).1
  have loops : loopField ∈ ledger.derivedFields :=
    List.mem_filter.mpr ⟨by simp [ledger], rfl⟩
  obtain ⟨reported, kept⟩ := blocked loopField loops (by decide)
  obtain ⟨outcome, missing, shown⟩ := computed totalField (by simp [ledger]) _ rfl (by decide)
  have lacks : (Derivation.mk ["price", "rate"] "price * rate").missingParents u.values =
      ["rate"] := by
    simp [Derivation.missingParents, Record.has, price, rate]
  rw [Derivation.compute, lacks] at missing
  cases missing
  exact ⟨short, u, updated, price, kept, reported, shown.1⟩

/-! ### Recomputing again -/

variable {w : DerivedUpdate} {x : String} {order : List String}

theorem settle_again {outcome : Except DerivedFault Value}
    (agree : u.AgreesOn (w.settle x outcome) x) :
    DerivedUpdate.settle { w with values := u.values } x outcome =
      { w.settle x outcome with values := u.values } := by
  cases outcome with
  | ok v =>
    have present : u.values.get? x = some v :=
      agree.1.trans (Record.get?_set_self w.values x v)
    rw [settle, store, Record.set_eq_self present]
    rfl
  | error fault => rfl

/-- A run, repeated on the values that came out, ends in the same state. -/
theorem foldlM_recompute_again (before : List String)
    (split : (s.resolution settings).order = before ++ order)
    (run : order.foldlM (s.recompute settings now) w = .ok u) :
    order.foldlM (s.recompute settings now) { w with values := u.values } = .ok u := by
  induction order generalizing before w with
  | nil =>
    cases run
    rfl
  | cons x order ih =>
    have sorts := sorts_resolution settings s
    have notLater : x ∉ order := (sorts.not_mem_of_split split).2
    have ordered : x ∈ (s.resolution settings).order := by
      rw [split]
      exact List.mem_append_right before List.mem_cons_self
    obtain ⟨f, member, d, rfl, derived, _⟩ := exists_derivation_of_mem_order ordered
    have unchanged := parents_unchanged split member derived run
    rw [List.foldlM_cons] at run ⊢
    obtain ⟨v, step, rest⟩ := Except.bind_eq_ok_iff.mp run
    rw [recompute_of_derived member derived] at step ⊢
    obtain ⟨outcome, computed, settled⟩ := Except.bind_eq_ok_iff.mp step
    cases settled
    rw [Derivation.compute_congr unchanged, computed]
    have again := settle_again (foldlM_recompute_agreesOn rest notLater)
    change order.foldlM (s.recompute settings now)
      (DerivedUpdate.settle { w with values := u.values } f.id outcome) = _
    rw [again]
    exact ih (before ++ [f.id]) (by rw [split, List.append_assoc]; rfl) rest

theorem passStart_eq (values values' : Record Value) :
    passStart settings s values' = { passStart settings s values with values := values' } := by
  unfold passStart
  have report : ∀ (blocked : List String) (w : DerivedUpdate),
      blocked.foldl (fun u id => u.report id .circular) { w with values := values' } =
        { blocked.foldl (fun u id => u.report id .circular) w with values := values' } := by
    intro blocked
    induction blocked with
    | nil => exact fun _ => rfl
    | cons x blocked ih => exact fun w => ih (w.report x .circular)
  exact report _ { values }

/-- **Recomputing again changes nothing**: neither the values nor the failures. -/
theorem update_again (h : s.update settings values now = .ok u) :
    s.update settings u.values now = .ok u := by
  rw [update_eq_foldlM, passStart_eq values u.values]
  exact foldlM_recompute_again [] rfl h

/-! ### Names -/

theorem names_recompute (step : s.recompute settings now w x = .ok u) (present : x ∈ w.values.names) :
    u.values.names = w.values.names := by
  rcases recompute_cases step with rfl | ⟨outcome, rfl⟩
  · rfl
  · cases outcome with
    | ok v => exact Record.names_set_of_mem w.values v present
    | error fault => rfl

theorem names_foldlM_recompute (run : order.foldlM (s.recompute settings now) w = .ok u)
    (present : ∀ x ∈ order, x ∈ w.values.names) : u.values.names = w.values.names := by
  induction order generalizing w with
  | nil =>
    cases run
    rfl
  | cons x order ih =>
    rw [List.foldlM_cons] at run
    obtain ⟨v, step, rest⟩ := Except.bind_eq_ok_iff.mp run
    have same := names_recompute step (present x List.mem_cons_self)
    have stillPresent : ∀ y ∈ order, y ∈ v.values.names := by
      intro y member
      rw [same]
      exact present y (List.mem_cons_of_mem x member)
    exact (ih rest stillPresent).trans same

/-- A recomputation keeps the names of a value map that has all derived fields. -/
theorem names_update (h : s.update settings values now = .ok u)
    (present : ∀ f ∈ s.derivedFields, f.id ∈ values.names) : u.values.names = values.names := by
  have start : (passStart settings s values).values = values := values_passStart
  rw [update_eq_foldlM] at h
  have ordered : ∀ x ∈ (s.resolution settings).order,
      x ∈ (passStart settings s values).values.names := by
    intro x member
    obtain ⟨f, isDerived, rfl⟩ :=
      mem_ids_parentLists.mp (((sorts_resolution settings s).mem_order x).mp member).1
    rw [start]
    exact present f isDerived
  rw [names_foldlM_recompute h ordered, start]

end Schema

end FormEngine
