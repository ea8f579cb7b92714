/-
  FormEngine/Proofs/Derived/Isolation.lean
  ========================================
  **Isolating cycles is computing a smaller form.**

  Under isolation the fields that reach a cycle keep their values.  The same values
  come out of the form in which these fields are entered by the user instead of
  computed, under either policy (`Schema.exists_update_isolate_agrees_entering`).

  The smaller form has the dependencies of the whole form less those of the entered
  fields, so a cycle in it would be one that was not isolated: nothing of it is
  blocked (`Schema.blocked_entering`).  Its solution, with the isolated fields
  reported, solves the equations of the whole form, and these determine the result
  whatever order the two walks compute in.
-/
import FormEngine.Proofs.Derived.Uniqueness

namespace FormEngine

open DependencyGraph Relation

/-! ### Fields that are entered -/

/-- The field as it is when those with the ids are entered by the user. -/
def Field.enteredAmong (ids : List String) (f : Field) : Field :=
  if f.id ∈ ids then { f with derivation? := none } else f

namespace Field

variable (ids : List String) (f : Field)

@[simp] theorem id_enteredAmong : (f.enteredAmong ids).id = f.id := by
  unfold enteredAmong
  split <;> rfl

@[simp] theorem variableName_enteredAmong :
    (f.enteredAmong ids).variableName = f.variableName := by
  unfold enteredAmong
  split <;> rfl

theorem derivation?_enteredAmong :
    (f.enteredAmong ids).derivation? = if f.id ∈ ids then none else f.derivation? := by
  unfold enteredAmong
  split <;> rfl

end Field

namespace Schema

/-- The form in which the fields with the ids are entered by the user instead of computed. -/
def entering (s : Schema) (ids : List String) : Schema :=
  { s with
    fields := s.fields.map (Field.enteredAmong ids)
    ids_nodup := by
      rw [List.map_map]
      exact (congrArg List.Nodup (List.map_congr_left (fun f _ => f.id_enteredAmong ids))).mpr
        s.ids_nodup }

/-- The fields that isolation blocks, in declaration order. -/
def isolated (s : Schema) : List String := (s.dependencies.resolve .isolate).blocked

variable {s : Schema} {ids : List String} {f : Field} {d : Derivation} {id x y : String}

theorem field?_entering (id : String) :
    (s.entering ids).field? id = (s.field? id).map (Field.enteredAmong ids) := by
  have same : ((fun f => f.id == id) ∘ Field.enteredAmong ids : Field → Bool) =
      fun f => f.id == id := by
    funext f
    rw [Function.comp_apply, Field.id_enteredAmong]
  rw [field?, entering, List.find?_map, same]
  rfl

theorem parentAliases_entering (d : Derivation) :
    (s.entering ids).parentAliases d = s.parentAliases d := by
  refine congrArg Record.ofEntries (List.filterMap_congr (fun p _ => ?_))
  rw [field?_entering, Option.map_map]
  refine congrArg (Option.map · (s.field? p)) (funext (fun f => ?_))
  rw [Function.comp_apply, Field.variableName_enteredAmong]

theorem mem_fields_entering (derived : f.derivation? = some d) :
    f ∈ (s.entering ids).fields ↔ f ∈ s.fields ∧ f.id ∉ ids := by
  constructor
  · intro member
    obtain ⟨g, isField, rfl⟩ := List.mem_map.mp member
    rw [Field.derivation?_enteredAmong] at derived
    split at derived
    · cases derived
    · next notEntered =>
      rw [Field.enteredAmong, if_neg notEntered]
      exact ⟨isField, notEntered⟩
  · rintro ⟨isField, notEntered⟩
    exact List.mem_map.mpr ⟨f, isField, if_neg notEntered⟩

theorem mem_derivedFields_entering :
    f ∈ (s.entering ids).derivedFields ↔ f ∈ s.derivedFields ∧ f.id ∉ ids := by
  rw [mem_derivedFields_iff, mem_derivedFields_iff]
  constructor
  · rintro ⟨member, d, derived⟩
    obtain ⟨isField, notEntered⟩ := (mem_fields_entering derived).mp member
    exact ⟨⟨isField, d, derived⟩, notEntered⟩
  · rintro ⟨⟨isField, d, derived⟩, notEntered⟩
    exact ⟨(mem_fields_entering derived).mpr ⟨isField, notEntered⟩, d, derived⟩

/-! ### No cycle is left -/

theorem dependsOn_of_entering (step : DependsOn (s.entering ids).parentLists x y) :
    DependsOn s.parentLists x y ∧ x ∉ ids := by
  obtain ⟨⟨parents, listed, parent⟩, isDerived⟩ := step
  obtain ⟨f, member, entry⟩ := List.mem_filterMap.mp listed
  obtain ⟨d, derived, same⟩ := Option.map_eq_some_iff.mp entry
  cases same
  obtain ⟨isField, notEntered⟩ := (mem_fields_entering derived).mp member
  obtain ⟨g, derivedField, rfl⟩ := mem_ids_parentLists.mp isDerived
  have stillDerived : g.id ∈ s.parentLists.map Prod.fst :=
    mem_ids_parentLists.mpr ⟨g, (mem_derivedFields_entering.mp derivedField).1, rfl⟩
  exact ⟨dependsOn_of_mem_parents isField derived parent stillDerived, notEntered⟩

/-- A cycle among the fields that are still computed is one of the whole form. -/
theorem onCycle_of_entering (cycle : OnCycle (s.entering ids).parentLists x) :
    OnCycle s.parentLists x ∧ x ∉ ids := by
  obtain ⟨_, step, _⟩ := TransGen.head'_iff.mp cycle
  exact ⟨TransGen.mono (fun _ _ step => (dependsOn_of_entering step).1) _ _ cycle,
    (dependsOn_of_entering step).2⟩

theorem mem_isolated : x ∈ s.isolated ↔ ReachesCycle s.parentLists x := by
  have distinct := s.nodup_ids_parentLists
  exact (mem_blocked_isolate (nodup_names_ofFields distinct)).trans (reachesCycle_ofFields distinct x)

/-- With the isolated fields entered, nothing is blocked under any settings. -/
theorem blocked_entering (settings : Settings) (s : Schema) :
    ((s.entering s.isolated).resolution settings).blocked = [] := by
  have distinct := (s.entering s.isolated).nodup_ids_parentLists
  have acyclic : (s.entering s.isolated).dependencies.cycles = [] := by
    refine (cycles_eq_nil_iff (nodup_names_ofFields distinct)).mpr ?_
    rintro ⟨x, cycle⟩
    obtain ⟨whole, notIsolated⟩ := onCycle_of_entering ((onCycle_ofFields distinct x).mp cycle)
    exact notIsolated (mem_isolated.mpr whole.reachesCycle)
  rw [resolution, resolve_of_acyclic acyclic]

end Schema

/-! ### The equations of both forms -/

namespace DerivedUpdate

variable {settings : Settings} {s : Schema} {values : Record Value} {now : Nat}
  {w : DerivedUpdate} {policy : CyclePolicy}

theorem Recomputes.reportAll
    (solution : w.Recomputes { settings with cyclePolicy := policy } (s.entering s.isolated)
      values now) :
    (w.reportAll s.isolated).Recomputes { settings with cyclePolicy := .isolate } s values now := by
  have sameValues : (w.reportAll s.isolated).values = w.values := values_reportAll _ w
  have errors : ∀ id, (w.reportAll s.isolated).errors.get? id =
      if id ∈ s.isolated then some ⟨id, .circular⟩ else w.errors.get? id :=
    errors_reportAll _ w
  refine ⟨?_, ?_, ?_⟩
  · intro id plain
    have stillPlain : ∀ f ∈ (s.entering s.isolated).derivedFields, f.id ≠ id :=
      fun f member => plain f (Schema.mem_derivedFields_entering.mp member).1
    have notIsolated : id ∉ s.isolated := by
      intro member
      obtain ⟨f, derivedField, same⟩ :=
        Schema.mem_ids_parentLists.mp (Schema.mem_isolated.mp member).mem
      exact plain f derivedField same
    rw [sameValues, errors, if_neg notIsolated]
    exact solution.plain id stillPlain
  · intro f derivedField isBlocked
    have isIsolated : f.id ∈ s.isolated := isBlocked
    have entered : ∀ g ∈ (s.entering s.isolated).derivedFields, g.id ≠ f.id := by
      intro g member same
      refine (Schema.mem_derivedFields_entering.mp member).2 ?_
      rw [same]
      exact isIsolated
    constructor
    · rw [errors, if_pos isIsolated]
    · rw [sameValues]
      exact (solution.plain f.id entered).1
  · intro f member d derived notBlocked
    have notIsolated : f.id ∉ s.isolated := notBlocked
    have computes : f ∈ (s.entering s.isolated).fields :=
      (Schema.mem_fields_entering derived).mpr ⟨member, notIsolated⟩
    have free : f.id ∉ ((s.entering s.isolated).resolution
        { settings with cyclePolicy := policy }).blocked := by
      rw [Schema.blocked_entering]
      exact List.not_mem_nil
    obtain ⟨outcome, computed, shown⟩ := solution.computed f computes d derived free
    rw [Schema.parentAliases_entering] at computed
    have agree : (w.reportAll s.isolated).AgreesOn w f.id := by
      rw [AgreesOn, sameValues, errors, if_neg notIsolated]
      exact ⟨rfl, rfl⟩
    refine ⟨outcome, ?_, agree.shows shown⟩
    rw [sameValues]
    exact computed

end DerivedUpdate

/-! ### Recomputations -/

namespace Schema

open DerivedUpdate

/-- **Isolating cycles is computing the form with the isolated fields entered.**  As long as
    expressions are not allowed to be longer than the limit on numerals: under isolation an
    update gives the values that the smaller form gets under either policy, and its failures,
    with a circular failure for exactly the isolated fields, which have none in the smaller
    form.  At another time the smaller form gets the same but for the lists that are made. -/
theorem exists_update_isolate_agrees_entering (settings : Settings)
    (short : settings.maxExpressionLength ≤ digitLimit) (s : Schema) (values : Record Value)
    (policy : CyclePolicy) (now : Nat) :
    ∃ u w, s.update { settings with cyclePolicy := .isolate } values now = .ok u ∧
      (s.entering s.isolated).update { settings with cyclePolicy := policy } values now = .ok w ∧
      (∀ id, u.values.get? id = w.values.get? id ∧
        (id ∈ s.isolated → u.errors.get? id = some ⟨id, .circular⟩ ∧ w.errors.get? id = none) ∧
        (id ∉ s.isolated → u.errors.get? id = w.errors.get? id)) ∧
      ∀ now', values.LacksTime now → values.LacksTime now' →
        (s.entering s.isolated).update { settings with cyclePolicy := policy } values now' =
          .ok (w.retime now now') := by
  have shortToo : { settings with cyclePolicy := policy }.maxExpressionLength ≤ digitLimit := short
  obtain ⟨w, updated', smaller⟩ :=
    exists_update_recomputes shortToo (s.entering s.isolated) values now
  obtain ⟨u, updated, agree⟩ := exists_update_of_recomputes smaller.reportAll
  have later : ∀ now', values.LacksTime now → values.LacksTime now' →
      (s.entering s.isolated).update { settings with cyclePolicy := policy } values now' =
        .ok (w.retime now now') := by
    intro now' lacks lacks'
    rw [update_retime lacks lacks', updated']
    rfl
  refine ⟨u, w, updated, updated', fun id => ?_, later⟩
  obtain ⟨value, error⟩ := agree id
  rw [values_reportAll] at value
  rw [errors_reportAll] at error
  refine ⟨value, ?_, ?_⟩
  · intro isIsolated
    rw [if_pos isIsolated] at error
    have entered : ∀ f ∈ (s.entering s.isolated).derivedFields, f.id ≠ id := by
      rintro f member rfl
      exact (mem_derivedFields_entering.mp member).2 isIsolated
    exact ⟨error, (smaller.plain id entered).2⟩
  · intro notIsolated
    rwa [if_neg notIsolated] at error

/-- A form with two fields that wait for each other, one that reads them, and one that lacks a
    parent. -/
def crossing : Schema where
  id := "crossing"
  name := "Crossing"
  fields := [
    { id := "price", type := .number, label := "Price" },
    { id := "net", type := .number, label := "Net",
      derivation? := some { parents := ["gross"], logic := "gross * 2" } },
    { id := "gross", type := .number, label := "Gross",
      derivation? := some { parents := ["net", "price"], logic := "net + price" } },
    { id := "echo", type := .number, label := "Echo",
      derivation? := some { parents := ["gross"], logic := "gross" } },
    totalField]
  ids_nodup := by decide

theorem exists_update_isolate_agrees_entering_crossing :
    isolating.maxExpressionLength ≤ digitLimit ∧ crossing.isolated = ["net", "gross", "echo"] ∧
      ∃ u w, crossing.update isolating [("price", .int 40), ("total", .int 7)] = .ok u ∧
        (crossing.entering crossing.isolated).update
          { isolating with cyclePolicy := .invalidateAll }
          [("price", .int 40), ("total", .int 7)] = .ok w ∧
        u.errors.get? "echo" = some ⟨"echo", .circular⟩ ∧ w.errors.get? "echo" = none ∧
        u.errors.get? "total" = w.errors.get? "total" ∧
        u.values.get? "total" = w.values.get? "total" := by
  have short : isolating.maxExpressionLength ≤ digitLimit := by decide
  have isolated : crossing.isolated = ["net", "gross", "echo"] := by cbv
  obtain ⟨u, w, updated, updated', agree, _⟩ := exists_update_isolate_agrees_entering isolating short
    crossing [("price", .int 40), ("total", .int 7)] .invalidateAll 0
  obtain ⟨_, circular, _⟩ := agree "echo"
  obtain ⟨value, _, error⟩ := agree "total"
  obtain ⟨reported, clean⟩ := circular (by rw [isolated]; decide)
  exact ⟨short, isolated, u, w, updated, updated', reported, clean,
    error (by rw [isolated]; decide), value⟩

end Schema

end FormEngine
