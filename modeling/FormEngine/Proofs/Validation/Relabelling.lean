/-
  FormEngine/Proofs/Validation/Relabelling.lean
  =============================================
  **Validation does not look into identities.**

  A rule sees the text of a value, or whether it is empty, and so not which object
  the value is.  Replacing the objects in a form leaves its errors as they are.
-/
import FormEngine.Proofs.Value.Relabelling
import FormEngine.Validation.Form

namespace FormEngine

variable {ρ : Identity → Identity}

namespace Validation

@[simp] theorem isUnset_relabel (v : Value) : isUnset (v.relabel ρ) = isUnset v := by
  cases v <;> rfl

theorem shownText_relabel (v : Value) : shownText (v.relabel ρ) = shownText v := by
  have text := v.toText_relabel (ρ := ρ)
  cases v <;> first | rfl | exact text

theorem failsLength_relabel (wrong : Int → Int → Bool) (r : Rule) (v : Value) :
    r.failsLength wrong (v.relabel ρ) = r.failsLength wrong v := by
  rw [Rule.failsLength, Rule.failsLength, Value.isNull_relabel, lengthOf, lengthOf,
    Value.toText_relabel]

theorem fails_relabel (r : Rule) (v : Value) : r.fails (v.relabel ρ) = r.fails v := by
  rw [Rule.fails, Rule.fails, failsLength_relabel, failsLength_relabel, Value.isEmpty_relabel,
    isUnset_relabel, Value.toText_relabel, passwordIssues, passwordIssues, shownText_relabel]

theorem failures_relabel (v : Value) (rules : List Rule) :
    failures (v.relabel ρ) rules = failures v rules := by
  induction rules with
  | nil => rfl
  | cons r rules ih => rw [failures, failures, ih, Rule.failure?, Rule.failure?, fails_relabel]

theorem valueOf_relabel (values : Record Value) (id : String) :
    valueOf (values.mapValues (Value.relabel ρ)) id = (valueOf values id).relabel ρ := by
  rw [valueOf, valueOf, Record.get?_mapValues]
  cases values.get? id <;> rfl

theorem fieldErrors_relabel (values : Record Value) (fields : List Field) :
    fieldErrors (values.mapValues (Value.relabel ρ)) fields = fieldErrors values fields := by
  induction fields with
  | nil => rfl
  | cons f fields ih =>
    rw [fieldErrors, fieldErrors, ih, Field.failures, Field.failures, valueOf_relabel,
      failures_relabel]

end Validation

/-- Two value maps that differ only in which objects they hold have the same errors. -/
theorem Schema.validate_relabel (s : Schema) (values : Record Value) :
    s.validate (values.mapValues (Value.relabel ρ)) = s.validate values :=
  Validation.fieldErrors_relabel values s.fields

end FormEngine
