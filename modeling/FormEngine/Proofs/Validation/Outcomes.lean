/-
  FormEngine/Proofs/Validation/Outcomes.lean
  ==========================================
  **When validation has a result.**

  A rule passes or fails, and says nothing but its own message, on every value that
  can be converted.  Converting is where it can be interrupted: the length rules
  read their bound as a number and write the value as text, the rules for addresses
  and passwords write the value.  `Rule.Interrupted` says when this happens, and
  `validation_outcome` that nothing else keeps a value, a field or a form from its
  result.
-/
import FormEngine.Proofs.Number.Reading
import FormEngine.Proofs.Text.Blanks
import FormEngine.Proofs.Value.Writing
import FormEngine.Validation.Form

namespace FormEngine

namespace Rule

variable {r : Rule} {v : Value}

/-- The bound is the text of an integer with more digits than are converted. -/
def HasOverlongBound (r : Rule) : Prop :=
  ∃ s, r.bound = some (.text s) ∧ Number.IsOverlongInteger (Text.trim s.toList)

/-- A conversion that the rule needs for this value is refused.  A bound that is no finite
    number leaves the value of a length rule unread. -/
def Interrupted (r : Rule) (v : Value) : Prop :=
  match r.ruleType? with
  | some .minLength | some .maxLength =>
    v.isNull = false ∧
      (r.HasOverlongBound ∨ (∃ bound, r.lengthBound? = .ok (some bound)) ∧ v.WritesOverlong)
  | some .email | some .customPassword => v.WritesOverlong
  | some .notEmpty | none => False

/-! ### Conversions -/

theorem exists_lengthBound_iff : (∃ bound?, r.lengthBound? = .ok bound?) ↔ ¬r.HasOverlongBound := by
  obtain ⟨type, bound, message⟩ := r
  cases bound with
  | none =>
    refine iff_of_true ⟨_, rfl⟩ (fun ⟨s, same, _⟩ => ?_)
    cases same
  | some b =>
    refine Iff.trans (Except.exists_bind_eq_ok_iff_of_total (fun x => ⟨_, rfl⟩)) ?_
    cases b with
    | number n =>
      refine iff_of_true ⟨_, rfl⟩ (fun ⟨s, same, _⟩ => ?_)
      cases same
    | text s =>
      refine Number.exists_ofText_iff.trans (not_congr ?_)
      constructor
      · intro long
        exact ⟨s, rfl, long⟩
      · rintro ⟨_, same, long⟩
        cases same
        exact long

theorem not_writesOverlong_of_isUnset (unset : Validation.isUnset v = true) :
    ¬v.WritesOverlong := by
  rw [← Value.exists_toText_iff]
  cases v with
  | null | text => exact ⟨_, rfl⟩
  | _ => cases unset

theorem exists_shownText_iff : (∃ s, Validation.shownText v = .ok s) ↔ ¬v.WritesOverlong := by
  rw [← Value.exists_toText_iff]
  cases v with
  | null => exact iff_of_true ⟨_, rfl⟩ ⟨_, rfl⟩
  | _ => exact Iff.rfl

/-! ### One rule -/

theorem exists_failsLength_iff (wrong : Int → Int → Bool) :
    (∃ failed, r.failsLength wrong v = .ok failed) ↔
      ¬(v.isNull = false ∧
        (r.HasOverlongBound ∨
          (∃ bound, r.lengthBound? = .ok (some bound)) ∧ v.WritesOverlong)) := by
  cases null : v.isNull with
  | true =>
    rw [failsLength, if_pos null]
    exact iff_of_true ⟨_, rfl⟩ (fun h => by cases h.1)
  | false =>
    rw [failsLength, null, if_neg Bool.false_ne_true, eq_self, true_and, not_or]
    rw [← exists_lengthBound_iff]
    cases read : r.lengthBound? with
    | error e =>
      refine iff_of_false ?_ (fun h => ?_)
      · rintro ⟨failed, h⟩
        cases h
      · obtain ⟨_, other⟩ := h.1
        cases other
    | ok bound? =>
      rw [and_iff_right ⟨bound?, rfl⟩]
      cases bound? with
      | none =>
        refine iff_of_true ⟨_, rfl⟩ (fun h => ?_)
        obtain ⟨⟨bound, other⟩, _⟩ := h
        cases other
      | some bound =>
        rw [not_and, imp_iff_right ⟨bound, rfl⟩, ← Value.exists_toText_iff]
        change (∃ failed, (do return wrong (← Validation.lengthOf v) bound) = .ok failed) ↔ _
        refine Iff.trans (Except.exists_bind_eq_ok_iff_of_total (fun length => ⟨_, rfl⟩)) ?_
        exact Except.exists_bind_eq_ok_iff_of_total (fun s => ⟨_, rfl⟩)

theorem exists_fails_iff : (∃ failed, r.fails v = .ok failed) ↔ ¬r.Interrupted v := by
  unfold fails Interrupted
  cases r.ruleType? with
  | none => exact iff_of_true ⟨_, rfl⟩ not_false
  | some type =>
    cases type with
    | notEmpty => exact iff_of_true ⟨_, rfl⟩ not_false
    | minLength | maxLength => exact exists_failsLength_iff _
    | email =>
      by_cases unset : Validation.isUnset v = true
      · simp only [unset, if_true]
        exact iff_of_true ⟨_, rfl⟩ (not_writesOverlong_of_isUnset unset)
      · simp only [unset, ← Value.exists_toText_iff]
        exact Except.exists_bind_eq_ok_iff_of_total (fun s => ⟨_, rfl⟩)
    | customPassword =>
      by_cases unset : Validation.isUnset v = true
      · simp only [unset, if_true]
        exact iff_of_true ⟨_, rfl⟩ (not_writesOverlong_of_isUnset unset)
      · simp only [unset, ← exists_shownText_iff]
        refine Iff.trans (Except.exists_bind_eq_ok_iff_of_total (fun issues => ⟨_, rfl⟩)) ?_
        exact Except.exists_bind_eq_ok_iff_of_total (fun s => ⟨_, rfl⟩)

theorem exists_failure_iff : (∃ failure, r.failure? v = .ok failure) ↔ ¬r.Interrupted v :=
  Iff.trans (Except.exists_bind_eq_ok_iff_of_total (fun _ => ⟨_, rfl⟩)) exists_fails_iff

/-- A rule has nothing to say but its message. -/
theorem eq_message_of_failure {failure : Option String} (h : r.failure? v = .ok failure) :
    failure = none ∨ failure = some r.message := by
  obtain ⟨failed, _, same⟩ := Except.bind_eq_ok_iff.mp h
  cases failed with
  | false =>
    cases same
    exact Or.inl rfl
  | true =>
    cases same
    exact Or.inr rfl

theorem failure_eq_ok_iff :
    (r.failure? v = .ok none ∨ r.failure? v = .ok (some r.message)) ↔ ¬r.Interrupted v := by
  rw [← exists_failure_iff]
  constructor
  · rintro (passed | failed)
    · exact ⟨_, passed⟩
    · exact ⟨_, failed⟩
  · rintro ⟨failure, h⟩
    rcases eq_message_of_failure h with rfl | rfl
    · exact Or.inl h
    · exact Or.inr h

end Rule

namespace Validation

/-! ### Fields and forms -/

theorem exists_failures_iff (v : Value) (rules : List Rule) :
    (∃ messages, failures v rules = .ok messages) ↔ ∀ r ∈ rules, ¬r.Interrupted v := by
  induction rules with
  | nil => exact iff_of_true ⟨_, rfl⟩ (List.forall_mem_nil _)
  | cons r rest ih =>
    rw [failures, List.forall_mem_cons, ← ih, ← Rule.exists_failure_iff]
    exact Except.exists_bind_eq_ok_iff (fun first =>
      Except.exists_bind_eq_ok_iff_of_total (fun others => ⟨_, rfl⟩))

theorem exists_fieldErrors_iff (values : Record Value) (fields : List Field) :
    (∃ errors, fieldErrors values fields = .ok errors) ↔
      ∀ f ∈ fields, ∀ r ∈ f.effectiveRules, ¬r.Interrupted (valueOf values f.id) := by
  induction fields with
  | nil => exact iff_of_true ⟨_, rfl⟩ (List.forall_mem_nil _)
  | cons f rest ih =>
    rw [fieldErrors, List.forall_mem_cons, ← ih, ← exists_failures_iff]
    exact Except.exists_bind_eq_ok_iff (fun messages =>
      Except.exists_bind_eq_ok_iff_of_total (fun others => ⟨_, rfl⟩))

end Validation

/-- **Validation has a result unless a rule is interrupted.**  A rule passes or gives its own
    message, a field has its list of messages, and a form its errors, each exactly if no rule
    that is checked there meets a conversion that is refused. -/
theorem validation_outcome (r : Rule) (v : Value) (rules : List Rule) (s : Schema)
    (values : Record Value) :
    ((r.failure? v = .ok none ∨ r.failure? v = .ok (some r.message)) ↔ ¬r.Interrupted v) ∧
    ((∃ messages, Validation.failures v rules = .ok messages) ↔ ∀ r ∈ rules, ¬r.Interrupted v) ∧
    ((∃ errors, s.validate values = .ok errors) ↔
      ∀ f ∈ s.fields, ∀ r ∈ f.effectiveRules,
        ¬r.Interrupted (Validation.valueOf values f.id)) := by
  refine ⟨?_, ?_, ?_⟩
  · exact Rule.failure_eq_ok_iff
  · exact Validation.exists_failures_iff v rules
  · exact Validation.exists_fieldErrors_iff values s.fields

/-- A length rule whose bound is written with one digit too many has no answer for a text of
    one character. -/
theorem failure_of_overlongBound :
    (⟨"minLength", some (.text (String.ofList (List.replicate 4301 '1'))), "m"⟩ : Rule).failure?
      (.text "x") = .error (.reading 4301) := by
  have ones : ∀ c ∈ List.replicate 4301 '1', c = '1' := fun c => List.eq_of_mem_replicate
  have digits : ∀ c ∈ List.replicate 4301 '1', Text.isDecimalDigit c = true := by
    intro c member
    rw [ones c member]
    decide
  have visible : ∀ c ∈ List.replicate 4301 '1', Text.isBlank c = false := by
    intro c member
    rw [ones c member]
    decide
  have ne : List.replicate 4301 '1' ≠ [] := List.cons_ne_nil _ _
  have length : (List.replicate 4301 '1').length = 4301 := List.length_replicate
  have long : ¬4301 ≤ digitLimit := by decide
  have read : Number.ofText (String.ofList (List.replicate 4301 '1')) = .error (.reading 4301) := by
    have literal := Number.ofTrimmed_signed (Or.inl rfl) digits ne
    rw [List.nil_append] at literal
    rw [Number.ofText, String.toList_ofList, Text.trim_eq_self visible, literal, Number.ofLiteral]
    simp only [DecimalLiteral.isInteger, DecimalLiteral.toNat, Text.readDecimal, length, long]
    rfl
  generalize String.ofList (List.replicate 4301 '1') = bound at read ⊢
  simp only [Rule.failure?, Rule.fails, Rule.ruleType?]
  rw [show RuleType.ofName? "minLength" = some .minLength by decide]
  simp only [Rule.failsLength, Rule.lengthBound?, Bound.toValue, Value.toNumber, read]
  rfl

end FormEngine
