/-
  FormEngine/Proofs/Session/Run.lean
  ==================================
  **What holds in every state of a session.**

  A session begins with the initial state of its form and goes on by steps of the
  user: setting a field, touching one, touching all.  The four parts of a state are
  written by different steps, and after any run they still belong together
  (`FormState.Consistent`): the values are those of the fields of the form and come
  from a recomputation; the validation errors are those of these values, once a field
  was set; and the touched fields are those that the steps named.

  Each recomputation takes place at a time of which the form holds no list yet, since
  the lists that it makes are new.  What a user hands in can be any object, also a list
  that was computed before.  A further recomputation leaves the values and the derived
  errors alone, but for these lists (`FormState.Recomputed.settled`).

  Each part is kept by each step (`Consistent.change`, `Consistent.touch`,
  `Consistent.touchAll`), so it holds in every state that a run reaches.
-/
import FormEngine.Proofs.Derived.Uniqueness
import FormEngine.Session

namespace FormEngine

/-! ### Steps and runs -/

/-- What a user can do to a form. -/
inductive SessionStep where
  | set (id : String) (v : Value)
  | touch (id : String)
  | touchAll
deriving Repr

namespace SessionStep

/-- The step changes a value. -/
def IsSet : SessionStep → Prop
  | .set _ _ => True
  | _ => False

/-- The step marks the field as touched. -/
def Names (s : Schema) (id : String) : SessionStep → Prop
  | .set other _ => id = other
  | .touch other => id = other
  | .touchAll => id ∈ s.ids

end SessionStep

/-- The states of a session after a sequence of steps, each of which returned, with the time of the
    last recomputation. -/
inductive SessionReaches (settings : Settings) (s : Schema) :
    List SessionStep → Nat → FormState → Prop
  | start {now : Nat} {state : FormState} (fresh : (s.initialValues now).LacksTime now)
      (initial : s.initialState settings now = .ok state) : SessionReaches settings s [] now state
  | set {steps : List SessionStep} {made now : Nat} {state next : FormState} {id : String}
      {v : Value} (reached : SessionReaches settings s steps made state)
      (fresh : (state.values.set id v).LacksTime now)
      (changed : state.change settings s id v now = .ok next) :
      SessionReaches settings s (steps ++ [.set id v]) now next
  | touch {steps : List SessionStep} {made : Nat} {state : FormState}
      (reached : SessionReaches settings s steps made state) (id : String) :
      SessionReaches settings s (steps ++ [.touch id]) made (state.touch id)
  | touchAll {steps : List SessionStep} {made : Nat} {state : FormState}
      (reached : SessionReaches settings s steps made state) :
      SessionReaches settings s (steps ++ [.touchAll]) made (state.touchAll s)

/-! ### The invariant -/

namespace FormState

/-- The values and the derived errors come from a recomputation at that time. -/
structure Recomputed (settings : Settings) (s : Schema) (values : Record Value)
    (errors : DerivedErrors) (made : Nat) : Prop where
  /-- The values are those of the fields of the form. -/
  names : values.names = s.ids
  /-- At the same time a recomputation would give them again. -/
  again : s.update settings values made = .ok { values, errors }
  /-- The values that it kept hold no list that it made. -/
  kept : ∀ id v, DerivedUpdate.Keeps ⟨values, errors⟩ s id → values.get? id = some v →
    v.LacksTime made

/-- The parts of the state belong together, after these steps. -/
structure Consistent (settings : Settings) (s : Schema) (steps : List SessionStep) (made : Nat)
    (state : FormState) : Prop where
  recomputed : Recomputed settings s state.values state.derivedErrors made
  /-- Before the first change nothing is validated. -/
  pristine : (∀ step ∈ steps, ¬ step.IsSet) → state.errors = [] ∧ state.isValid = false
  /-- After a change the errors are those of the values. -/
  validated : (∃ step ∈ steps, step.IsSet) →
    s.validate state.values = .ok state.errors ∧ state.isValid = state.errors.isEmpty
  /-- The touched fields are those that the steps named. -/
  touched : ∀ id marked, state.touched.get? id = some marked ↔
    marked = true ∧ ∃ step ∈ steps, step.Names s id

variable {settings : Settings} {s : Schema} {steps : List SessionStep} {made now : Nat}
  {state next : FormState}

/-! ### Recomputed values -/

section Recomputed

variable {values before : Record Value} {errors : DerivedErrors} {u : DerivedUpdate}

theorem mem_ids_of_mem_derivedFields {f : Field} (h : f ∈ s.derivedFields) : f.id ∈ s.ids :=
  List.mem_map_of_mem (List.mem_filter.mp h).1

theorem present_of_names (names : values.names = s.ids) : ∀ f ∈ s.derivedFields,
    f.id ∈ values.names := by
  intro f derived
  rw [names]
  exact mem_ids_of_mem_derivedFields derived

theorem recomputed_of_update (names : before.names = s.ids) (fresh : before.LacksTime now)
    (updated : s.update settings before now = .ok u) :
    Recomputed settings s u.values u.errors now where
  names := (Schema.names_update updated (present_of_names names)).trans names
  again := Schema.update_again updated
  kept id v kept found := by
    rw [(Schema.recomputes_of_update updated).get?_of_keeps kept] at found
    exact fresh.get? found

/-- A recomputation at another time, of values that are the same where they are kept. -/
theorem Recomputed.update_eq (recomputed : Recomputed settings s values errors made)
    (names : before.names = s.ids)
    (same : ∀ id, DerivedUpdate.Keeps ⟨values, errors⟩ s id → before.get? id = values.get? id)
    (lacks : ∀ id v, DerivedUpdate.Keeps ⟨values, errors⟩ s id → values.get? id = some v →
      v.LacksTime now) :
    s.update settings before now =
      .ok { values := values.mapValues (Value.retime made now), errors } := by
  have distinct : values.names.Nodup := by
    rw [recomputed.names]
    exact s.ids_nodup
  exact Schema.update_eq_retime recomputed.again (present_of_names recomputed.names) distinct
    (fun id v kept found => ⟨recomputed.kept id v kept found, lacks id v kept found⟩) same
    (names.trans recomputed.names.symm)

/-- Recomputing again gives the same values, but for the lists that are made, and the same derived
    errors. -/
theorem Recomputed.settled (recomputed : Recomputed settings s values errors made)
    (fresh : values.LacksTime now) : s.update settings values now =
      .ok { values := values.mapValues (Value.retime made now), errors } :=
  recomputed.update_eq recomputed.names (fun _ _ => rfl) (fun _ _ _ found => fresh.get? found)

end Recomputed

/-! ### Touching -/

theorem get?_touch (state : FormState) (id other : String) :
    (state.touch id).touched.get? other =
      if other = id then some true else state.touched.get? other :=
  Record.get?_set state.touched id other true

theorem foldl_touch_eq (ids : List String) (state : FormState) :
    ids.foldl touch state = { state with touched := (ids.foldl touch state).touched } := by
  induction ids generalizing state with
  | nil => rfl
  | cons id ids ih => exact ih (state.touch id)

theorem get?_foldl_touch (ids : List String) (state : FormState) (other : String) :
    (ids.foldl touch state).touched.get? other =
      if other ∈ ids then some true else state.touched.get? other := by
  induction ids generalizing state with
  | nil => rfl
  | cons id ids ih =>
    rw [List.foldl_cons, ih (state.touch id), get?_touch]
    by_cases later : other ∈ ids
    · rw [if_pos later, if_pos (List.mem_cons_of_mem id later)]
    · by_cases same : other = id
      · rw [if_neg later, if_pos same, if_pos (by rw [same]; exact List.mem_cons_self)]
      · rw [if_neg later, if_neg same, if_neg (by simp [same, later])]

theorem names_append_iff {action : SessionStep} {id : String} :
    (∃ step ∈ steps ++ [action], step.Names s id) ↔
      (∃ step ∈ steps, step.Names s id) ∨ action.Names s id := by
  simp only [List.mem_append, List.mem_singleton, or_and_right, exists_or, exists_eq_left]

/-- A state in which a step has marked what it names. -/
theorem touched_of_marks {action : SessionStep}
    (consistent : Consistent settings s steps made state)
    {touched : Record Bool} (marks : ∀ id, (action.Names s id → touched.get? id = some true) ∧
      (¬ action.Names s id → touched.get? id = state.touched.get? id)) (id : String)
    (marked : Bool) : touched.get? id = some marked ↔
      marked = true ∧ ∃ step ∈ steps ++ [action], step.Names s id := by
  rw [names_append_iff]
  by_cases named : action.Names s id
  · rw [(marks id).1 named, Option.some.injEq]
    constructor
    · rintro rfl
      exact ⟨rfl, Or.inr named⟩
    · rintro ⟨isTrue, _⟩
      exact isTrue.symm
  · rw [(marks id).2 named, consistent.touched id marked]
    exact and_congr_right (fun _ => (or_iff_left named).symm)

/-- Touching keeps a state consistent: it reads and writes nothing but the touched fields. -/
theorem Consistent.withTouched (consistent : Consistent settings s steps made state)
    (action : SessionStep) (noSet : ¬ action.IsSet) {touched : Record Bool}
    (marks : ∀ id, (action.Names s id → touched.get? id = some true) ∧
      (¬ action.Names s id → touched.get? id = state.touched.get? id)) :
    Consistent settings s (steps ++ [action]) made { state with touched } where
  recomputed := consistent.recomputed
  pristine none :=
    consistent.pristine (fun step member => none step (List.mem_append_left _ member))
  validated := by
    rintro ⟨step, member, isSet⟩
    rcases List.mem_append.mp member with earlier | last
    · exact consistent.validated ⟨step, earlier, isSet⟩
    · rw [List.mem_singleton.mp last] at isSet
      exact absurd isSet noSet
  touched := touched_of_marks consistent marks

theorem Consistent.touch (consistent : Consistent settings s steps made state) (id : String) :
    Consistent settings s (steps ++ [.touch id]) made (state.touch id) := by
  refine consistent.withTouched (.touch id) (fun h => h) (fun other => ?_)
  constructor
  · rintro rfl
    exact Record.get?_set_self state.touched other true
  · intro different
    exact Record.get?_set_of_ne state.touched true different

theorem Consistent.touchAll (consistent : Consistent settings s steps made state) :
    Consistent settings s (steps ++ [.touchAll]) made (state.touchAll s) := by
  rw [FormState.touchAll, foldl_touch_eq]
  refine consistent.withTouched .touchAll (fun h => h) (fun other => ?_)
  rw [get?_foldl_touch]
  constructor
  · intro member
    exact if_pos member
  · intro other
    exact if_neg other

/-! ### Beginning and changing -/

theorem names_initialValues (s : Schema) (now : Nat) : (s.initialValues now).names = s.ids := by
  rw [Schema.initialValues, Record.names, List.map_map]
  rfl

theorem consistent_of_initialState (fresh : (s.initialValues now).LacksTime now)
    (initial : s.initialState settings now = .ok state) :
    Consistent settings s [] now state := by
  obtain ⟨u, updated, result⟩ := Except.bind_eq_ok_iff.mp initial
  cases result
  refine ⟨recomputed_of_update (names_initialValues s now) fresh updated,
    fun _ => ⟨rfl, rfl⟩, ?_, ?_⟩
  · rintro ⟨_, member, _⟩
    cases member
  · intro id marked
    constructor
    · intro h
      cases h
    · rintro ⟨_, _, member, _⟩
      cases member

theorem change_eq_ok {id : String} {v : Value}
    (changed : state.change settings s id v now = .ok next) :
    id ∈ s.ids ∧ ∃ u errors, s.update settings (state.values.set id v) now = .ok u ∧
      s.validate u.values = .ok errors ∧
      next = { values := u.values, errors, touched := state.touched.set id true,
               isValid := errors.isEmpty, derivedErrors := u.errors } := by
  unfold change at changed
  split at changed
  · cases changed
  · next f found =>
    obtain ⟨u, updated, changed⟩ := Except.bind_eq_ok_iff.mp changed
    obtain ⟨errors, validated, changed⟩ := Except.bind_eq_ok_iff.mp changed
    cases changed
    have isField : id ∈ s.ids := by
      rw [← Schema.id_of_field? found]
      exact List.mem_map_of_mem (List.mem_of_find?_eq_some found)
    exact ⟨isField, u, errors, Except.mapError_eq_ok_iff.mp updated,
      Except.mapError_eq_ok_iff.mp validated, rfl⟩

/-- A change returns where the recomputation and the validation do. -/
theorem change_of_update {id : String} {v : Value} {u : DerivedUpdate} {errors : FieldErrors}
    (isField : id ∈ s.ids) (updated : s.update settings (state.values.set id v) now = .ok u)
    (validated : s.validate u.values = .ok errors) :
    state.change settings s id v now =
      .ok { values := u.values, errors, touched := state.touched.set id true,
            isValid := errors.isEmpty, derivedErrors := u.errors } := by
  obtain ⟨f, member, rfl⟩ := List.mem_map.mp isField
  rw [change, Schema.field?_of_mem member]
  simp only [updated, Except.mapError, bind, Except.bind, validated]
  rfl

theorem Consistent.names_set {id : String} (consistent : Consistent settings s steps made state)
    (isField : id ∈ s.ids) (v : Value) : (state.values.set id v).names = s.ids := by
  have names := consistent.recomputed.names
  rw [Record.names_set_of_mem state.values v (by rwa [names]), names]

theorem Consistent.change {id : String} {v : Value}
    (consistent : Consistent settings s steps made state)
    (fresh : (state.values.set id v).LacksTime now)
    (changed : state.change settings s id v now = .ok next) :
    Consistent settings s (steps ++ [.set id v]) now next := by
  obtain ⟨isField, u, errors, updated, validated, rfl⟩ := change_eq_ok changed
  have isSet : ∃ step ∈ steps ++ [SessionStep.set id v], step.IsSet :=
    ⟨_, List.mem_append_right _ List.mem_cons_self, trivial⟩
  refine ⟨recomputed_of_update (consistent.names_set isField v) fresh updated, ?_,
    fun _ => ⟨validated, rfl⟩, ?_⟩
  · intro none
    obtain ⟨step, member, set⟩ := isSet
    exact absurd set (none step member)
  · refine touched_of_marks consistent (fun other => ?_)
    constructor
    · rintro rfl
      exact Record.get?_set_self state.touched other true
    · intro different
      exact Record.get?_set_of_ne state.touched true different

/-- Every state that a run reaches is consistent. -/
theorem consistent_of_reaches (reached : SessionReaches settings s steps made state) :
    Consistent settings s steps made state := by
  induction reached with
  | start fresh initial => exact consistent_of_initialState fresh initial
  | set _ fresh changed ih => exact ih.change fresh changed
  | touch _ id ih => exact ih.touch id
  | touchAll _ ih => exact ih.touchAll

/-- Within the limit on numerals, nothing but the validation of the form can stop a change of one
    of its fields. -/
theorem change_eq_ok_or_validate_eq_error (short : settings.maxExpressionLength ≤ digitLimit)
    {id : String} (isField : id ∈ s.ids) (v : Value) (now : Nat) :
    (∃ next, state.change settings s id v now = .ok next) ∨
      ∃ u error, s.update settings (state.values.set id v) now = .ok u ∧
        s.validate u.values = .error error := by
  obtain ⟨u, updated⟩ := Schema.exists_update_eq_ok short s (state.values.set id v) now
  cases validated : s.validate u.values with
  | ok errors => exact Or.inl ⟨_, change_of_update isField updated validated⟩
  | error error => exact Or.inr ⟨u, error, updated, validated⟩

/-- **Every state of a session belongs together.**  As long as expressions are not allowed to be
    longer than the limit on numerals, every form has an initial state, and every state that a run
    reaches from it is consistent.  Recomputing its values gives them back, but for the lists that
    are made, with the same derived errors.  From there a change of any field of the form returns,
    unless the validation of the recomputed values fails to. -/
theorem exists_initialState_consistent_of_reaches
    (short : settings.maxExpressionLength ≤ digitLimit) (s : Schema) :
    (∀ now, ∃ state, s.initialState settings now = .ok state) ∧
    ∀ steps made state, SessionReaches settings s steps made state →
      state.Consistent settings s steps made ∧
      (∀ now, state.values.LacksTime now → s.update settings state.values now =
        .ok { values := state.values.mapValues (Value.retime made now),
              errors := state.derivedErrors }) ∧
      ∀ id ∈ s.ids, ∀ v now, (∃ next, state.change settings s id v now = .ok next) ∨
        ∃ u error, s.update settings (state.values.set id v) now = .ok u ∧
          s.validate u.values = .error error := by
  constructor
  · intro now
    obtain ⟨u, updated⟩ := Schema.exists_update_eq_ok short s (s.initialValues now) now
    exact ⟨_, by rw [Schema.initialState, updated]; rfl⟩
  · intro steps made state reached
    have consistent := consistent_of_reaches reached
    exact ⟨consistent, fun now fresh => consistent.recomputed.settled fresh,
      fun id isField v now => change_eq_ok_or_validate_eq_error short isField v now⟩

theorem exists_initialState_consistent_of_reaches_ledger :
    Schema.isolating.maxExpressionLength ≤ digitLimit ∧
    ∃ made state, SessionReaches Schema.isolating Schema.ledger
        [.set "price" (.text ""), .touchAll] made state ∧
      state.values.names = ["price", "tax", "total", "loop"] ∧
      Schema.ledger.validate state.values = .ok state.errors ∧
      state.touched.get? "tax" = some true := by
  have short : Schema.isolating.maxExpressionLength ≤ digitLimit := by decide
  obtain ⟨begins, holds⟩ := exists_initialState_consistent_of_reaches short Schema.ledger
  obtain ⟨first, initial⟩ := begins 0
  have start := SessionReaches.start (Record.lacksTime_of_identities_nil rfl 0) initial
  obtain ⟨now, later⟩ := (first.values.set "price" (.text "")).exists_lacksTime
  have returns : ∀ values, ∃ errors, Schema.ledger.validate values = .ok errors :=
    fun values => ⟨_, rfl⟩
  obtain ⟨next, changed⟩ : ∃ next,
      first.change Schema.isolating Schema.ledger "price" (.text "") now = .ok next := by
    rcases (holds _ _ _ start).2.2 "price" (by decide) (.text "") now with
      changes | ⟨u, error, _, failed⟩
    · exact changes
    · obtain ⟨errors, validated⟩ := returns u.values
      rw [validated] at failed
      cases failed
  have afterSet :
      SessionReaches Schema.isolating Schema.ledger [.set "price" (.text "")] now next :=
    start.set (later now le_rfl) changed
  have afterTouch : SessionReaches Schema.isolating Schema.ledger
      [.set "price" (.text ""), .touchAll] now (next.touchAll Schema.ledger) :=
    afterSet.touchAll
  have consistent := (holds _ _ _ afterTouch).1
  have isSet : ∃ step ∈ [SessionStep.set "price" (.text ""), .touchAll], step.IsSet :=
    ⟨_, List.mem_cons_self, trivial⟩
  have named : ∃ step ∈ [SessionStep.set "price" (.text ""), .touchAll],
      step.Names Schema.ledger "tax" :=
    ⟨.touchAll, by simp, by simp [SessionStep.Names, Schema.ids, Schema.ledger, Schema.totalField]⟩
  exact ⟨short, now, _, afterTouch, consistent.recomputed.names, (consistent.validated isSet).1,
    (consistent.touched "tax" true).mpr ⟨rfl, named⟩⟩

end FormState

end FormEngine
