/-
  FormEngine/Proofs/Derived/Uniqueness.lean
  =========================================
  **The equations of a recomputation have one solution.**

  `DerivedUpdate.Recomputes` says of every field what a recomputation has to show,
  and mentions no order of computation.  What satisfies it is what the pass over
  the fields ends in (`Schema.exists_update_of_recomputes`): along the pass, the
  fields that are done are as in the solution and those to come are as they were
  (`DerivedUpdate.Tracks`), and since parents come first, each step computes from
  values of the solution.

  The equations read a value from before only where the update keeps it
  (`DerivedUpdate.Recomputes.restart`).  So a recomputation can be repeated, and
  it can be begun again with some of its results already stored, and comes to the
  same end: at another time to the same values but for the lists that are made anew
  (`Schema.recomputes_retime`).
-/
import FormEngine.Proofs.Derived.Retiming

namespace FormEngine

namespace DerivedUpdate

variable {settings : Settings} {s : Schema} {values values' : Record Value} {now : Nat}
  {u w : DerivedUpdate} {id x : String} {pending : List String}
  {outcome : Except DerivedFault Value}

/-! ### What an update keeps -/

theorem Shows.agreesOn (h : u.Shows values id outcome) (h' : w.Shows values id outcome) :
    u.AgreesOn w id := by
  cases outcome with
  | ok v => exact ⟨h.1.trans h'.1.symm, h.2.trans h'.2.symm⟩
  | error fault => exact ⟨h.2.trans h'.2.symm, h.1.trans h'.1.symm⟩

/-- The update keeps the value from before: no derived field has the id, or that field failed. -/
def Keeps (u : DerivedUpdate) (s : Schema) (id : String) : Prop :=
  (∀ f ∈ s.derivedFields, f.id ≠ id) ∨ u.errors.get? id ≠ none

theorem keeps_of_error {fault : FieldFault} (failed : u.errors.get? id = some fault) :
    u.Keeps s id := by
  right
  rw [failed]
  exact Option.some_ne_none fault

theorem Recomputes.get?_of_keeps (h : u.Recomputes settings s values now) (kept : u.Keeps s id) :
    u.values.get? id = values.get? id := by
  by_cases plain : ∀ f ∈ s.derivedFields, f.id ≠ id
  · exact (h.plain id plain).1
  · have failed : u.errors.get? id ≠ none := kept.resolve_left plain
    push Not at plain
    obtain ⟨f, derivedField, rfl⟩ := plain
    obtain ⟨member, d, derived⟩ := Schema.mem_derivedFields_iff.mp derivedField
    by_cases isBlocked : f.id ∈ (s.resolution settings).blocked
    · exact (h.blocked f derivedField isBlocked).2
    · obtain ⟨outcome, _, shows_⟩ := h.computed f member d derived isBlocked
      cases outcome with
      | ok v => exact absurd shows_.2 failed
      | error fault => exact shows_.2

theorem Shows.restart (h : u.Shows values id outcome)
    (same : u.Keeps s id → values'.get? id = u.values.get? id) : u.Shows values' id outcome := by
  cases outcome with
  | ok v => exact h
  | error fault => exact ⟨h.1, (same (keeps_of_error h.1)).symm⟩

/-- What a recomputation comes to depends only on the values that it keeps. -/
theorem Recomputes.restart (h : u.Recomputes settings s values now)
    (same : ∀ id, u.Keeps s id → values'.get? id = u.values.get? id) :
    u.Recomputes settings s values' now := by
  refine ⟨?_, ?_, ?_⟩
  · intro id plain
    exact ⟨(same id (Or.inl plain)).symm, (h.plain id plain).2⟩
  · intro f member isBlocked
    exact (h.blocked f member isBlocked).restart (same f.id)
  · intro f member d derived notBlocked
    obtain ⟨outcome, computed, shows_⟩ := h.computed f member d derived notBlocked
    exact ⟨outcome, computed, shows_.restart (same f.id)⟩

/-! ### On the way to a solution -/

/-- `w` is on its way to `u`: the fields that are pending are as in `values` and without failure,
    and everything else is as in `u`. -/
structure Tracks (w u : DerivedUpdate) (values : Record Value) (pending : List String) :
    Prop where
  settled : ∀ id, id ∉ pending → w.AgreesOn u id
  fresh : ∀ id ∈ pending, w.values.get? id = values.get? id ∧ w.errors.get? id = none

theorem Tracks.settle (tracks : w.Tracks u values (x :: pending)) (once : x ∉ pending)
    (shows_ : u.Shows values x outcome) : (w.settle x outcome).Tracks u values pending := by
  obtain ⟨before, clean⟩ := tracks.fresh x List.mem_cons_self
  constructor
  · intro id settled
    by_cases same : id = x
    · subst same
      exact (settle_shows outcome before clean).agreesOn shows_
    · have earlier : id ∉ x :: pending := by simp [same, settled]
      exact (settle_agreesOn outcome same).trans (tracks.settled id earlier)
  · intro id member
    have other : id ≠ x := by
      rintro rfl
      exact once member
    have frame : (w.settle x outcome).AgreesOn w id := settle_agreesOn outcome other
    obtain ⟨value, error⟩ := tracks.fresh id (List.mem_cons_of_mem x member)
    exact ⟨frame.1.trans value, frame.2.trans error⟩

end DerivedUpdate

namespace Schema

open DerivedUpdate

variable {settings : Settings} {s : Schema} {values : Record Value} {now : Nat}
  {u w : DerivedUpdate} {x : String} {order before after : List String}

theorem exists_recompute_tracks (solution : u.Recomputes settings s values now)
    (split : (s.resolution settings).order = before ++ x :: after)
    (tracks : w.Tracks u values (x :: after)) :
    ∃ v, s.recompute settings now w x = .ok v ∧ v.Tracks u values after := by
  have ordered : x ∈ (s.resolution settings).order := by
    rw [split]
    exact List.mem_append_right before List.mem_cons_self
  obtain ⟨f, member, d, rfl, derived, notBlocked⟩ := exists_derivation_of_mem_order ordered
  obtain ⟨outcome, computed, shows_⟩ := solution.computed f member d derived notBlocked
  -- no parent is pending, so the step computes from values of the solution
  have parents : ∀ p ∈ d.parents, w.values.get? p = u.values.get? p := by
    intro p parent
    exact (tracks.settled p (not_mem_of_mem_parents split member derived parent)).1
  have once : f.id ∉ after := ((sorts_resolution settings s).not_mem_of_split split).2
  refine ⟨w.settle f.id outcome, ?_, tracks.settle once shows_⟩
  rw [recompute_of_derived member derived, Derivation.compute_congr parents, computed]
  rfl

/-- The rest of a pass that is on its way to a solution arrives there. -/
theorem exists_foldlM_recompute_agreesOn (solution : u.Recomputes settings s values now)
    (split : (s.resolution settings).order = before ++ order) (tracks : w.Tracks u values order) :
    ∃ v, order.foldlM (s.recompute settings now) w = .ok v ∧ ∀ id, v.AgreesOn u id := by
  induction order generalizing before w with
  | nil => exact ⟨w, rfl, fun id => tracks.settled id List.not_mem_nil⟩
  | cons x order ih =>
    obtain ⟨v, step, onward⟩ := exists_recompute_tracks solution split tracks
    have splitNext : (s.resolution settings).order = (before ++ [x]) ++ order := by
      rw [split, List.append_assoc]
      rfl
    obtain ⟨last, rest, agree⟩ := ih splitNext onward
    refine ⟨last, ?_, agree⟩
    rw [List.foldlM_cons, step]
    exact rest

/-- A field that is not computed is settled from the start: it is blocked, or not derived at
    all. -/
theorem passStart_agreesOn (solution : u.Recomputes settings s values now)
    (notOrdered : x ∉ (s.resolution settings).order) :
    (passStart settings s values).AgreesOn u x := by
  have sorts := sorts_resolution settings s
  rw [AgreesOn, values_passStart, errors_passStart]
  by_cases isDerived : ∃ f ∈ s.derivedFields, f.id = x
  · have isBlocked : x ∈ (s.resolution settings).blocked := by
      by_contra notBlocked
      exact notOrdered ((sorts.mem_order x).mpr ⟨mem_ids_parentLists.mpr isDerived, notBlocked⟩)
    obtain ⟨f, member, rfl⟩ := isDerived
    obtain ⟨reported, kept⟩ := solution.blocked f member isBlocked
    rw [if_pos isBlocked]
    exact ⟨kept.symm, reported.symm⟩
  · have notBlocked : x ∉ (s.resolution settings).blocked := by
      intro isBlocked
      exact isDerived (mem_ids_parentLists.mp (sorts.blocked.subset isBlocked))
    push Not at isDerived
    obtain ⟨kept, clean⟩ := solution.plain x isDerived
    rw [if_neg notBlocked]
    exact ⟨kept.symm, clean.symm⟩

theorem tracks_passStart (solution : u.Recomputes settings s values now) :
    (passStart settings s values).Tracks u values (s.resolution settings).order := by
  constructor
  · exact fun id notOrdered => passStart_agreesOn solution notOrdered
  · intro id ordered
    have notBlocked := (((sorts_resolution settings s).mem_order id).mp ordered).2
    rw [values_passStart, errors_passStart, if_neg notBlocked]
    exact ⟨rfl, rfl⟩

/-- The pass returns, and with the solution, wherever the equations have one. -/
theorem exists_update_of_recomputes (solution : u.Recomputes settings s values now) :
    ∃ w, s.update settings values now = .ok w ∧ ∀ id, w.AgreesOn u id := by
  rw [update_eq_foldlM]
  exact exists_foldlM_recompute_agreesOn solution (List.nil_append _).symm
    (tracks_passStart solution)

/-! ### Names of failures -/

theorem names_errors_reportAll {blocked : List String} (distinct : blocked.Nodup)
    (clean : ∀ x ∈ blocked, x ∉ w.errors.names) :
    (w.reportAll blocked).errors.names = w.errors.names ++ blocked := by
  induction blocked generalizing w with
  | nil => exact (List.append_nil _).symm
  | cons x blocked ih =>
    rw [List.nodup_cons] at distinct
    have reported : (w.report x .circular).errors.names = w.errors.names ++ [x] :=
      Record.names_set_of_not_mem w.errors _ (clean x List.mem_cons_self)
    have stillClean : ∀ y ∈ blocked, y ∉ (w.report x .circular).errors.names := by
      intro y member
      have other : y ≠ x := by
        rintro rfl
        exact distinct.1 member
      have earlier := clean y (List.mem_cons_of_mem x member)
      simp [reported, earlier, other]
    have rest := ih distinct.2 stillClean
    rw [reported, List.append_assoc] at rest
    exact rest

theorem names_errors_foldlM_recompute (run : order.foldlM (s.recompute settings now) w = .ok u)
    (distinct : order.Nodup) (clean : ∀ x ∈ order, x ∉ w.errors.names) :
    u.errors.names = w.errors.names ++ order.filter u.errors.has := by
  induction order generalizing w with
  | nil =>
    cases run
    exact (List.append_nil _).symm
  | cons x order ih =>
    rw [List.nodup_cons] at distinct
    rw [List.foldlM_cons] at run
    obtain ⟨v, step, rest⟩ := Except.bind_eq_ok_iff.mp run
    have kept : u.errors.get? x = v.errors.get? x := (foldlM_recompute_agreesOn rest distinct.1).2
    have fresh := clean x List.mem_cons_self
    have later : ∀ y ∈ order, y ∉ w.errors.names := fun y member =>
      clean y (List.mem_cons_of_mem x member)
    have settled : v.errors = w.errors ∨ ∃ fault, v.errors = w.errors.set x fault := by
      rcases recompute_cases step with rfl | ⟨outcome, rfl⟩
      · exact Or.inl rfl
      · cases outcome with
        | ok v => exact Or.inl rfl
        | error fault => exact Or.inr ⟨_, rfl⟩
    rcases settled with same | ⟨fault, failed⟩
    · have none : u.errors.has x = false := by
        rw [Record.has, kept, same, Record.get?_eq_none_of_not_mem fresh]
        rfl
      rw [ih rest distinct.2 (by rwa [same]), same, List.filter_cons, none]
      rfl
    · have names : v.errors.names = w.errors.names ++ [x] := by
        rw [failed, Record.names_set_of_not_mem w.errors fault fresh]
      have present : u.errors.has x = true := by
        rw [Record.has, kept, failed, Record.get?_set_self]
        rfl
      have stillClean : ∀ y ∈ order, y ∉ v.errors.names := by
        intro y member
        have other : y ≠ x := by
          rintro rfl
          exact distinct.1 member
        simp [names, later y member, other]
      rw [ih rest distinct.2 stillClean, names, List.filter_cons, present, List.append_assoc]
      rfl

/-- The failures of an update stand in the order of the resolution. -/
theorem names_errors_update (h : s.update settings values now = .ok u) :
    u.errors.names = (s.resolution settings).blocked ++
      (s.resolution settings).order.filter u.errors.has := by
  have sorts := sorts_resolution settings s
  have blocked : (passStart settings s values).errors.names = (s.resolution settings).blocked :=
    names_errors_reportAll (s.nodup_ids_parentLists.sublist sorts.blocked) (by simp [Record.names])
  rw [update_eq_foldlM] at h
  rw [names_errors_foldlM_recompute h sorts.distinct, blocked]
  intro x ordered isBlocked
  rw [blocked] at isBlocked
  exact ((sorts.mem_order x).mp ordered).2 isBlocked

/-- Two updates of a form with the same failures have them in the same order. -/
theorem errors_eq_of_get?_eq {values' : Record Value} {now' : Nat}
    (h : s.update settings values now = .ok u) (h' : s.update settings values' now' = .ok w)
    (same : ∀ id, w.errors.get? id = u.errors.get? id) : w.errors = u.errors := by
  have sorts := sorts_resolution settings s
  have has : w.errors.has = u.errors.has := funext (fun id => congrArg Option.isSome (same id))
  have names := names_errors_update h'
  refine Record.eq_of_get?_eq ?_ ?_ same
  · rw [names, names_errors_update h, has]
  · rw [names, List.nodup_append]
    refine ⟨s.nodup_ids_parentLists.sublist sorts.blocked, sorts.distinct.filter _, ?_⟩
    rintro x isBlocked _ ordered rfl
    exact ((sorts.mem_order x).mp (List.mem_filter.mp ordered).1).2 isBlocked

/-! ### Recomputing again -/

variable {values' : Record Value} {now' : Nat}

/-- What comes to be recomputed at another time gives the same values but for the lists that are
    made, if the kept values hold no list of either time. -/
theorem recomputes_retime (h : s.update settings values now = .ok u)
    (lacks : ∀ id v, u.Keeps s id → u.values.get? id = some v →
      v.LacksTime now ∧ v.LacksTime now')
    (same : ∀ id, u.Keeps s id → values'.get? id = u.values.get? id) :
    (u.retime now now').Recomputes settings s values' now' := by
  have exchanged : s.update settings (values.mapValues (Value.retime now now')) now' =
      .ok (u.retime now now') := by
    rw [update_mapValues_retime, h]
    rfl
  refine (recomputes_of_update exchanged).restart (fun id kept => ?_)
  exact (same id kept).trans (Record.get?_mapValues_retime (fun v => lacks id v kept)).symm

/-- The same with everything in its place: the names of the values, and the order of the
    failures. -/
theorem update_eq_retime (h : s.update settings values now = .ok u)
    (present : ∀ f ∈ s.derivedFields, f.id ∈ values.names) (distinct : values.names.Nodup)
    (lacks : ∀ id v, u.Keeps s id → u.values.get? id = some v →
      v.LacksTime now ∧ v.LacksTime now')
    (same : ∀ id, u.Keeps s id → values'.get? id = u.values.get? id)
    (order : values'.names = values.names) :
    s.update settings values' now' = .ok (u.retime now now') := by
  obtain ⟨w, updated, agree⟩ := exists_update_of_recomputes (recomputes_retime h lacks same)
  have errors : w.errors = u.errors := errors_eq_of_get?_eq h updated (fun id => (agree id).2)
  have names : w.values.names = values.names :=
    (names_update updated (by rwa [order])).trans order
  have names' : (u.retime now now').values.names = values.names :=
    (Record.names_mapValues _ _).trans (names_update h present)
  have same : w.values = (u.retime now now').values :=
    Record.eq_of_get?_eq (names.trans names'.symm) (by rwa [names]) (fun id => (agree id).1)
  rw [updated]
  obtain ⟨values, failures⟩ := w
  cases same
  cases errors
  rfl

/-- **A recomputation is stable.**  Recomputing its values gives the same values and the same
    failures; and so does recomputing any map that has, under each id, the value from before or
    the one from after.  At another time it gives the same values but for the lists that are
    made. -/
theorem update_stable (h : s.update settings values now = .ok u) :
    s.update settings u.values now = .ok u ∧
    ∀ values' : Record Value,
      (∀ id, values'.get? id = values.get? id ∨ values'.get? id = u.values.get? id) →
      (∃ w, s.update settings values' now = .ok w ∧ ∀ id, w.AgreesOn u id) ∧
      ∀ now', values.LacksTime now → values.LacksTime now' →
        ∃ w, s.update settings values' now' = .ok w ∧ ∀ id, w.AgreesOn (u.retime now now') id := by
  have solution : u.Recomputes settings s values now := recomputes_of_update h
  refine ⟨update_again h, fun values' mixed => ?_⟩
  have same : ∀ id, u.Keeps s id → values'.get? id = u.values.get? id := by
    intro id kept
    rcases mixed id with old | new
    · rw [old, solution.get?_of_keeps kept]
    · exact new
  refine ⟨exists_update_of_recomputes (solution.restart same), fun now' lacks lacks' => ?_⟩
  refine exists_update_of_recomputes (recomputes_retime h (fun id v kept found => ?_) same)
  rw [solution.get?_of_keeps kept] at found
  exact ⟨lacks.get? found, lacks'.get? found⟩

theorem total_of_recomputes_ledger {v : Value} (h : u.Recomputes isolating ledger values now)
    (price : values.get? "price" = some v) (rate : values.get? "rate" = none) :
    u.errors.get? "total" = some ⟨"total", .missingParents ["rate"]⟩ ∧
      u.values.get? "total" = values.get? "total" := by
  have isolated : (ledger.resolution isolating).blocked = ["loop"] := by cbv
  obtain ⟨outcome, computed, shown⟩ :=
    h.computed totalField (by simp [ledger]) _ rfl (by rw [isolated]; decide)
  have present : u.values.get? "price" = some v := (h.plain "price" (by decide)).1.trans price
  have absent : u.values.get? "rate" = none := (h.plain "rate" (by decide)).1.trans rate
  have lacks : (Derivation.mk ["price", "rate"] "price * rate").missingParents u.values =
      ["rate"] := by
    simp [Derivation.missingParents, Record.has, present, absent]
  rw [Derivation.compute, lacks] at computed
  cases computed
  exact shown

theorem update_stable_ledger :
    ∃ u w, ledger.update isolating [("price", .int 40), ("total", .int 7)] = .ok u ∧
      u.errors.get? "total" = some ⟨"total", .missingParents ["rate"]⟩ ∧
      u.values.get? "total" = some (.int 7) ∧
      ledger.update isolating u.values = .ok u ∧
      ledger.update isolating [("total", .int 7), ("price", .int 40)] = .ok w ∧
      w.values.get? "total" = some (.int 7) ∧
      ∃ w, ledger.update isolating u.values 1 = .ok w ∧
        w.errors.get? "total" = u.errors.get? "total" := by
  have short : isolating.maxExpressionLength ≤ digitLimit := by decide
  obtain ⟨u, updated⟩ := exists_update_eq_ok short ledger [("price", .int 40), ("total", .int 7)] 0
  obtain ⟨again, partly⟩ := update_stable updated
  obtain ⟨failed, total⟩ := total_of_recomputes_ledger (recomputes_of_update updated) rfl rfl
  have swapped : ∀ id, Record.get? [("total", Value.int 7), ("price", .int 40)] id =
      Record.get? [("price", .int 40), ("total", .int 7)] id := by
    intro id
    by_cases isPrice : "price" = id
    · subst isPrice
      rfl
    · simp only [Record.get?_cons, if_neg isPrice]
  obtain ⟨⟨w, updated', agree⟩, _⟩ := partly [("total", .int 7), ("price", .int 40)]
    (fun id => Or.inl (swapped id))
  obtain ⟨_, later⟩ := partly u.values (fun id => Or.inr rfl)
  have noLists : ∀ now, Record.LacksTime [("price", .int 40), ("total", .int 7)] now :=
    Record.lacksTime_of_identities_nil rfl
  obtain ⟨w', updatedLater, agreeLater⟩ := later 1 (noLists 0) (noLists 1)
  exact ⟨u, w, updated, failed, total, again, updated', (agree "total").1.trans total, w',
    updatedLater, (agreeLater "total").2⟩

end Schema

end FormEngine
