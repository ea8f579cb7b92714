/-
  FormEngine/Proofs/Session/Overwriting.lean
  ==========================================
  **Changes that a session does not notice.**

  The value of a derived field is not the user's to set: where the field computes
  without failure, whatever is written there is overwritten before anything reads
  it.  Nor does it matter to write into a field what it holds already.  In both
  cases the equations of the recomputation are those of the state before, so the
  values and the derived errors stay, but for the lists that are made anew
  (`FormState.change_keeps`).
-/
import FormEngine.Proofs.Session.History
import FormEngine.Proofs.Validation.Relabelling

namespace FormEngine

namespace FormState

variable {settings : Settings} {s : Schema} {steps : List SessionStep} {made now : Nat}
  {state : FormState} {id : String} {v : Value}

/-- The field computes without failure, or holds this value already. -/
def Absorbs (s : Schema) (state : FormState) (id : String) (v : Value) : Prop :=
  (∃ f ∈ s.derivedFields, f.id = id ∧ state.derivedErrors.get? id = none) ∨
    state.values.get? id = some v

theorem Absorbs.mem_ids (absorbs : Absorbs s state id v)
    (consistent : Consistent settings s steps made state) : id ∈ s.ids := by
  rcases absorbs with ⟨f, derived, rfl, _⟩ | present
  · exact mem_ids_of_mem_derivedFields derived
  · rw [← consistent.recomputed.names]
    exact List.mem_map_of_mem (Record.mem_of_get? present)

/-- What is written is not among the values that a recomputation keeps, or it was there before. -/
theorem Absorbs.get?_set_of_keeps (absorbs : Absorbs s state id v) {x : String}
    (kept : DerivedUpdate.Keeps ⟨state.values, state.derivedErrors⟩ s x) :
    (state.values.set id v).get? x = state.values.get? x := by
  rcases absorbs with ⟨f, derived, rfl, clean⟩ | present
  · have other : x ≠ f.id := by
      rintro rfl
      rcases kept with plain | failed
      · exact plain f derived rfl
      · exact failed clean
    exact Record.get?_set_of_ne state.values v other
  · rw [Record.set_eq_self present]

/-- The recomputation after the change comes to what was there before it. -/
theorem Absorbs.update_set (absorbs : Absorbs s state id v)
    (consistent : Consistent settings s steps made state)
    (fresh : (state.values.set id v).LacksTime now) :
    s.update settings (state.values.set id v) now =
      .ok { values := state.values.mapValues (Value.retime made now),
            errors := state.derivedErrors } := by
  have isField := absorbs.mem_ids consistent
  refine consistent.recomputed.update_eq (consistent.names_set isField v)
    (fun _ kept => absorbs.get?_set_of_keeps kept) (fun x w kept found => ?_)
  rw [← absorbs.get?_set_of_keeps kept] at found
  exact fresh.get? found

/-- **Some changes are not noticed.**  In every state of a session, writing anything into a derived
    field without an error, or into any field what it holds already, leaves the values, but for the
    lists that are made anew, and the derived errors as they are; only the validation of the values
    can fail to return. -/
theorem change_keeps (reached : SessionReaches settings s steps made state)
    (absorbs : Absorbs s state id v) (fresh : (state.values.set id v).LacksTime now) :
    (∃ next, state.change settings s id v now = .ok next ∧
        next.values = state.values.mapValues (Value.retime made now) ∧
        next.derivedErrors = state.derivedErrors) ∨
      ∃ error, s.validate state.values = .error error ∧
        state.change settings s id v now = .error (.numeral error) := by
  have consistent := consistent_of_reaches reached
  have isField := absorbs.mem_ids consistent
  have updated := absorbs.update_set consistent fresh
  have sameErrors : s.validate (state.values.mapValues (Value.retime made now)) =
      s.validate state.values := s.validate_relabel state.values
  cases validated : s.validate state.values with
  | ok errors =>
    exact Or.inl ⟨_, change_of_update isField updated (sameErrors.trans validated), rfl, rfl⟩
  | error error =>
    refine Or.inr ⟨error, rfl, ?_⟩
    obtain ⟨f, member, rfl⟩ := List.mem_map.mp isField
    rw [change, Schema.field?_of_mem member]
    simp only [updated, sameErrors, validated, Except.mapError, bind, Except.bind]

/-- The size of a phrase cannot be overwritten, and setting the phrase again changes nothing. -/
theorem change_keeps_passphrase :
    ∃ state, SessionReaches {} .passphrase [.set "phrase" (.text "abc")] 1 state ∧
      state.values.get? "size" = some (.int 3) ∧
      (∃ next, state.change {} .passphrase "size" (.int 99) 2 = .ok next ∧
        next.values = state.values.mapValues (Value.retime 1 2) ∧
        next.derivedErrors = state.derivedErrors) ∧
      ∃ next, state.change {} .passphrase "phrase" (.text "abc") 2 = .ok next ∧
        next.values = state.values.mapValues (Value.retime 1 2) ∧
        next.derivedErrors = state.derivedErrors := by
  have isPhrase : "phrase" ∈ Schema.passphrase.ids := by decide
  have reached := reaches_passphrase_set (reaches_passphrase_start 0) isPhrase rfl
    (Schema.update_passphrase_text "abc" (.int 0) 1)
  have size : Schema.sizeField ∈ Schema.passphrase.derivedFields :=
    List.mem_filter.mpr ⟨by simp [Schema.passphrase], rfl⟩
  -- the fields of the form have no rules
  have valid : Schema.passphrase.validate [("phrase", .text "abc"), ("size", .int 3)] = .ok [] :=
    rfl
  refine ⟨_, reached, rfl, ?_, ?_⟩
  · have derived : Absorbs .passphrase { values := [("phrase", .text "abc"), ("size", .int 3)] }
        "size" (.int 99) := Or.inl ⟨_, size, rfl, rfl⟩
    rcases change_keeps reached derived (Record.lacksTime_of_identities_nil rfl 2) with
      kept | ⟨error, failed, _⟩
    · exact kept
    · cases valid.symm.trans failed
  · have present : Absorbs .passphrase { values := [("phrase", .text "abc"), ("size", .int 3)] }
        "phrase" (.text "abc") := Or.inr rfl
    rcases change_keeps reached present (Record.lacksTime_of_identities_nil rfl 2) with
      kept | ⟨error, failed, _⟩
    · exact kept
    · cases valid.symm.trans failed

end FormState

end FormEngine
