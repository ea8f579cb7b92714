/-
  FormEngine/Validation/Form.lean
  ===============================
  **Validation of a whole form.**

  Every field is checked against its *effective* rules: its own, led by the rule
  that it must not be empty if it is required and does not say so itself.  A field
  without a value is checked as null.  A form is valid when no effective rule of
  any field fails.
-/
import FormEngine.Settings
import FormEngine.Validation.Rule

namespace FormEngine

/-! ### Effective rules -/

namespace Field

/-- The rule that a required field has when it does not declare one. -/
def requiredRule (f : Field) : Rule where
  type := RuleType.notEmpty.name
  message := f.label ++ " is required"

/-- The rules that the values of the field are checked against. -/
def effectiveRules (f : Field) : List Rule :=
  if f.required && !f.rules.any (fun r => r.ruleType? == some .notEmpty) then
    f.requiredRule :: f.rules
  else f.rules

/-- A required field is always checked for emptiness. -/
theorem exists_notEmpty_of_required (f : Field) (h : f.required = true) :
    ∃ r ∈ f.effectiveRules, r.ruleType? = some .notEmpty := by
  by_cases own : f.rules.any (fun r => r.ruleType? == some .notEmpty) = true
  · obtain ⟨r, hr, ht⟩ := List.any_eq_true.mp own
    exact ⟨r, by simpa [effectiveRules, own] using hr, by simpa using ht⟩
  · refine ⟨f.requiredRule, by simp [effectiveRules, h, own], ?_⟩
    exact RuleType.ofName?_name .notEmpty

/-- The messages of all effective rules that fail on the value. -/
def failures (f : Field) (v : Value) : Except NumeralError (List String) :=
  Validation.failures v f.effectiveRules

end Field

/-! ### Forms -/

/-- The messages for each field that has any. -/
abbrev FieldErrors := Record (List String)

namespace Validation

/-- The value of a field, null if the map has none. -/
def valueOf (values : Record Value) (id : String) : Value := (values.get? id).getD .null

/-- The errors of fields, in their order. -/
def fieldErrors (values : Record Value) : List Field → Except NumeralError FieldErrors
  | [] => .ok []
  | f :: rest => do
    let messages ← f.failures (valueOf values f.id)
    let others ← fieldErrors values rest
    return if messages.isEmpty then others else (f.id, messages) :: others

end Validation

namespace Schema

/-- The errors of a value map; the map is valid if there are none. -/
def validate (s : Schema) (values : Record Value) : Except NumeralError FieldErrors :=
  Validation.fieldErrors values s.fields

/-- The types of effective rules that the engine does not know, each once, ascending. -/
def unknownRuleTypes (s : Schema) : List String :=
  let unknown := (s.fields.flatMap Field.effectiveRules).filter (fun r => !r.isKnown)
  ((unknown.map Rule.type).eraseDups).mergeSort (fun a b => !decide (b < a))

/-- The warning about rules of unknown types, if the settings ask for it and there are any. -/
def ruleWarning? (settings : Settings) (s : Schema) : Option String :=
  if settings.warnsUnknownRules && !s.unknownRuleTypes.isEmpty then
    some ("Form '" ++ s.id ++ "' uses unknown validation rule types (treated as passing): "
      ++ String.intercalate ", " s.unknownRuleTypes)
  else none

end Schema

end FormEngine
