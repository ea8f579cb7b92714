/-
  FormEngine/Proofs/Settings.lean
  ===============================
  **When settings are rejected, and when they cannot even be.**

  The three settings are checked in order, and the first that cannot be used is shown in
  the message that rejects it (`Settings.FirstUnusable`).  A setting that shows an
  integer with more digits than are converted has no such message; nothing else keeps
  settings from being accepted or rejected.
-/
import FormEngine.Proofs.Value.Writing
import FormEngine.Settings

namespace FormEngine.Settings

variable {α β : Type} {v : Value} {given : Record Value}

/-! ### One setting -/

/-- The value is a positive integer. -/
def IsLength (v : Value) : Prop := ∃ n : Int, 0 < n ∧ v = .number (.int n)

/-- The value is the name of one of these. -/
def IsNameOf (all : List α) (name : α → String) (v : Value) : Prop := ∃ p ∈ all, v = .text (name p)

/-- The check accepts what can be used and rejects everything else. -/
structure Checks (check : Value → Except SettingsFailure α) (Usable : Value → Prop) : Prop where
  accepts {v : Value} : Usable v → ∃ a, check v = .ok a
  rejects {v : Value} : ¬Usable v → ∃ error, check v = reject error v

theorem checks_lengthOf : Checks lengthOf IsLength where
  accepts := by
    rintro v ⟨n, positive, rfl⟩
    exact ⟨_, dif_pos positive⟩
  rejects {v} unusable := by
    unfold lengthOf
    split
    · next n =>
      split
      · next positive => exact absurd ⟨n, positive, rfl⟩ unusable
      · exact ⟨_, rfl⟩
    · exact ⟨_, rfl⟩

theorem checks_policyOf (all : List α) (name : α → String) (error : String → SettingsError) :
    Checks (policyOf all name error) (IsNameOf all name) where
  accepts := by
    rintro v ⟨p, member, rfl⟩
    have isNamed : (all.find? (fun q => name q == name p)).isSome := by
      rw [List.find?_isSome]
      exact ⟨p, member, beq_self_eq_true _⟩
    obtain ⟨q, found⟩ := Option.isSome_iff_exists.mp isNamed
    refine ⟨q, ?_⟩
    rw [policyOf, found]
  rejects {v} unusable := by
    unfold policyOf
    split
    · next s =>
      split
      · next p found =>
        have named := List.find?_some found
        rw [beq_iff_eq] at named
        exact absurd ⟨p, List.mem_of_find?_eq_some found, by rw [named]⟩ unusable
      · exact ⟨error, rfl⟩
    · exact ⟨error, rfl⟩

theorem reject_eq_numeral_iff {error : String → SettingsError} :
    (∃ e, (reject error v : Except SettingsFailure α) = .error (.numeral e)) ↔
      v.DisplaysOverlong := by
  have displayed := Value.exists_display_iff v
  unfold reject
  cases shown : v.display with
  | ok s =>
    rw [shown] at displayed
    exact iff_of_false nofun (displayed.mp ⟨s, rfl⟩)
  | error e =>
    rw [shown] at displayed
    exact iff_of_true ⟨e, rfl⟩ (not_not.mp (fun short => nomatch displayed.mpr short))

/-- Settings are interrupted by the first that cannot be used, or by one behind it. -/
theorem Checks.bind_eq_numeral_iff {check : Value → Except SettingsFailure α}
    {Usable : Value → Prop} (checks : Checks check Usable) {f : α → Except SettingsFailure β}
    {p : Prop} (onward : ∀ a, (∃ e, f a = .error (.numeral e)) ↔ p) :
    (∃ e, check v >>= f = .error (.numeral e)) ↔
      ¬Usable v ∧ v.DisplaysOverlong ∨ Usable v ∧ p := by
  by_cases usable : Usable v
  · obtain ⟨a, accepted⟩ := checks.accepts usable
    rw [accepted]
    refine (onward a).trans ?_
    rw [and_iff_right usable]
    exact (or_iff_right (fun h => h.1 usable)).symm
  · obtain ⟨error, rejected⟩ := checks.rejects usable
    have shown : (∃ e, (reject error v : Except SettingsFailure β) = .error (.numeral e)) ↔
        v.DisplaysOverlong := reject_eq_numeral_iff
    rw [rejected, and_iff_right usable, or_iff_left (fun h => usable h.1), ← shown]
    unfold reject
    cases v.display <;> rfl

/-! ### All settings -/

/-- The value of each setting, or its default. -/
def givenLength (given : Record Value) : Value :=
  (given.get? "max_expression_length").getD (.int 500)

def givenCycles (given : Record Value) : Value :=
  (given.get? "cycle_policy").getD (.text "invalidate_all")

def givenRules (given : Record Value) : Value :=
  (given.get? "unknown_rule_policy").getD (.text "ignore")

def IsCyclePolicy : Value → Prop := IsNameOf CyclePolicy.all CyclePolicy.name

def IsRulePolicy : Value → Prop := IsNameOf UnknownRulePolicy.all UnknownRulePolicy.name

/-- The first setting that cannot be used has this value. -/
inductive FirstUnusable (given : Record Value) : Value → Prop
  | length (unusable : ¬IsLength (givenLength given)) : FirstUnusable given (givenLength given)
  | cycles (length : IsLength (givenLength given)) (unusable : ¬IsCyclePolicy (givenCycles given)) :
    FirstUnusable given (givenCycles given)
  | rules (length : IsLength (givenLength given)) (cycles : IsCyclePolicy (givenCycles given))
    (unusable : ¬IsRulePolicy (givenRules given)) : FirstUnusable given (givenRules given)

theorem exists_firstUnusable_iff {p : Value → Prop} :
    (∃ v, FirstUnusable given v ∧ p v) ↔
      ¬IsLength (givenLength given) ∧ p (givenLength given) ∨
        IsLength (givenLength given) ∧
          (¬IsCyclePolicy (givenCycles given) ∧ p (givenCycles given) ∨
            IsCyclePolicy (givenCycles given) ∧
              (¬IsRulePolicy (givenRules given) ∧ p (givenRules given))) := by
  constructor
  · rintro ⟨_, first, holds⟩
    cases first with
    | length unusable => exact Or.inl ⟨unusable, holds⟩
    | cycles length unusable => exact Or.inr ⟨length, Or.inl ⟨unusable, holds⟩⟩
    | rules length cycles unusable => exact Or.inr ⟨length, Or.inr ⟨cycles, unusable, holds⟩⟩
  · rintro (⟨unusable, holds⟩ | ⟨length, ⟨unusable, holds⟩ | ⟨cycles, unusable, holds⟩⟩)
    · exact ⟨_, .length unusable, holds⟩
    · exact ⟨_, .cycles length unusable, holds⟩
    · exact ⟨_, .rules length cycles unusable, holds⟩

/-- Settings are accepted or rejected unless the first that cannot be used shows an integer that
    is too long. -/
theorem ofRecord_eq_numeral_iff :
    (∃ e, ofRecord given = .error (.numeral e)) ↔
      ∃ v, FirstUnusable given v ∧ v.DisplaysOverlong := by
  rw [exists_firstUnusable_iff]
  refine checks_lengthOf.bind_eq_numeral_iff (fun length => ?_)
  refine (checks_policyOf CyclePolicy.all CyclePolicy.name _).bind_eq_numeral_iff (fun cycles => ?_)
  refine Iff.trans (Checks.bind_eq_numeral_iff (p := False)
    (checks_policyOf UnknownRulePolicy.all UnknownRulePolicy.name _) (fun rules => ?_)) ?_
  · exact iff_of_false (fun ⟨_, h⟩ => nomatch h) not_false
  · rw [and_false, or_false]
    rfl

end FormEngine.Settings
