/-
  FormEngine/Proofs/Validation/FormErrors.lean
  ============================================
  **The errors of a form are the failures of its rules.**

  Validation goes through the fields and through the effective rules of each.  What it
  collects is said here without the loops: a field has an entry exactly if one of its
  effective rules fails, and the entry holds the messages of those that do
  (`Validation.fieldErrors_eq`).

  A form without errors keeps the promise that callers rely on.  Whatever rules a
  required field declares, one of its effective rules asks for a value
  (`Field.exists_notEmpty_of_required`), so the field has one, and it is not empty.
-/
import FormEngine.Proofs.Outcome
import FormEngine.Validation.Form

namespace FormEngine

/-! ### Values that are empty -/

/-- Null, blank text, and collections without elements. -/
inductive Value.HasNothing : Value → Prop
  | null : HasNothing .null
  | blank {s : String} (blank : ∀ c ∈ s.toList, Text.isBlank c = true) : HasNothing (.text s)
  | list {i : Identity} : HasNothing (.list i [])
  | tuple {i : Identity} : HasNothing (.tuple i [])
  | set {i : Identity} : HasNothing (.set i [])
  | mapping {i : Identity} : HasNothing (.mapping i [])

theorem Value.isEmpty_iff {v : Value} : v.isEmpty = true ↔ v.HasNothing := by
  constructor
  · intro empty
    cases v with
    | null => exact .null
    | text s => exact .blank (by simpa [isEmpty, Text.isBlankText] using empty)
    | list i items | tuple i items | set i items | mapping i items =>
      cases List.isEmpty_iff.mp empty
      constructor
    | bool | number | date | function => cases empty
  · intro nothing
    cases nothing with
    | blank blank => simpa [isEmpty, Text.isBlankText] using blank
    | _ => rfl

/-! ### Rules that fail -/

namespace Rule

/-- The rule is checked and gives its message. -/
def failsOn (r : Rule) (v : Value) : Bool :=
  match r.failure? v with
  | .ok (some _) => true
  | _ => false

theorem failsOn_of_fails {r : Rule} {v : Value} {failed : Bool} (h : r.fails v = .ok failed) :
    r.failsOn v = failed := by
  rw [failsOn, failure?_of_fails h]
  cases failed <;> rfl

/-- A rule that asks for a value fails on the values that are empty. -/
theorem failsOn_notEmpty {r : Rule} (type : r.ruleType? = some .notEmpty) (v : Value) :
    r.failsOn v = v.isEmpty :=
  failsOn_of_fails (by rw [fails, type])

end Rule

namespace Field

/-- An effective rule of the field fails. -/
def failsOn (f : Field) (v : Value) : Bool := f.effectiveRules.any (fun r => r.failsOn v)

/-- The messages of the effective rules that fail, in the order of the rules. -/
def failingMessages (f : Field) (v : Value) : List String :=
  (f.effectiveRules.filter (fun r => r.failsOn v)).map Rule.message

theorem isEmpty_failingMessages (f : Field) (v : Value) :
    (f.failingMessages v).isEmpty = !f.failsOn v := by
  rw [Bool.eq_iff_iff]
  simp [failingMessages, failsOn]

end Field

/-! ### Collecting -/

namespace Validation

variable {values : Record Value}

theorem failures_eq {v : Value} {rules : List Rule} {messages : List String}
    (h : failures v rules = .ok messages) :
    messages = (rules.filter (fun r => r.failsOn v)).map Rule.message := by
  induction rules generalizing messages with
  | nil =>
    cases h
    rfl
  | cons r rest ih =>
    obtain ⟨first, checked, h⟩ := Except.bind_eq_ok_iff.mp h
    obtain ⟨others, checkedOthers, h⟩ := Except.bind_eq_ok_iff.mp h
    obtain ⟨failed, fails, _⟩ := Except.bind_eq_ok_iff.mp checked
    rw [Rule.failure?_of_fails fails] at checked
    cases checked
    cases h
    rw [ih checkedOthers, List.filter_cons, Rule.failsOn_of_fails fails]
    cases failed <;> rfl

/-- **What validation collects**: an entry for each field with a failing rule, in the order of the
    fields, with the messages of its failing rules. -/
theorem fieldErrors_eq {fields : List Field} {errors : FieldErrors}
    (h : fieldErrors values fields = .ok errors) :
    errors = (fields.filter (fun f => f.failsOn (valueOf values f.id))).map
      (fun f => (f.id, f.failingMessages (valueOf values f.id))) := by
  induction fields generalizing errors with
  | nil =>
    cases h
    rfl
  | cons f rest ih =>
    obtain ⟨messages, checked, h⟩ := Except.bind_eq_ok_iff.mp h
    obtain ⟨others, checkedOthers, h⟩ := Except.bind_eq_ok_iff.mp h
    have collected : messages = f.failingMessages (valueOf values f.id) := failures_eq checked
    cases h
    rw [collected, Field.isEmpty_failingMessages, ih checkedOthers, List.filter_cons]
    cases f.failsOn (valueOf values f.id) <;> rfl

end Validation

/-! ### Forms -/

namespace Schema

variable {s : Schema} {values : Record Value} {errors : FieldErrors}

theorem names_of_validate (h : s.validate values = .ok errors) :
    Record.names errors =
      (s.fields.filter (fun f => f.failsOn (Validation.valueOf values f.id))).map Field.id := by
  rw [Validation.fieldErrors_eq h, Record.names, List.map_map]
  rfl

theorem get?_of_validate (h : s.validate values = .ok errors) {f : Field} (member : f ∈ s.fields)
    (failed : f.failsOn (Validation.valueOf values f.id) = true) :
    Record.get? errors f.id = some (f.failingMessages (Validation.valueOf values f.id)) := by
  -- the ids are distinct in the schema, hence also among the fields with errors
  have distinct : (Record.names errors).Nodup := by
    rw [names_of_validate h]
    exact (List.filter_sublist.map Field.id).nodup s.ids_nodup
  rw [Record.get?_eq_some_iff distinct, Validation.fieldErrors_eq h]
  exact List.mem_map.mpr ⟨f, List.mem_filter.mpr ⟨member, failed⟩, rfl⟩

theorem isEmpty_of_validate_iff (h : s.validate values = .ok errors) :
    errors.isEmpty = true ↔
      ∀ f ∈ s.fields, ∀ r ∈ f.effectiveRules,
        r.failsOn (Validation.valueOf values f.id) = false := by
  rw [Validation.fieldErrors_eq h]
  simp [Field.failsOn]

/-- **The errors of a form are those of its rules, and a form without errors is filled in.**  The
    fields with errors are those with a failing effective rule, in declaration order, each with
    the messages of all its failing rules; the form is valid exactly if there are none; and then
    every required field has a value that is not empty. -/
theorem validate_errors (h : s.validate values = .ok errors) :
    Record.names errors =
      (s.fields.filter (fun f => f.failsOn (Validation.valueOf values f.id))).map Field.id ∧
    (∀ f ∈ s.fields, f.failsOn (Validation.valueOf values f.id) = true →
      Record.get? errors f.id = some (f.failingMessages (Validation.valueOf values f.id))) ∧
    (errors.isEmpty = true ↔
      ∀ f ∈ s.fields, ∀ r ∈ f.effectiveRules,
        r.failsOn (Validation.valueOf values f.id) = false) ∧
    (errors.isEmpty = true →
      ∀ f ∈ s.fields, f.required = true → ∃ v, values.get? f.id = some v ∧ ¬ v.HasNothing) := by
  refine ⟨names_of_validate h, fun f member => get?_of_validate h member,
    isEmpty_of_validate_iff h, ?_⟩
  intro valid f member required
  obtain ⟨r, effective, type⟩ := f.exists_notEmpty_of_required required
  have passed := (isEmpty_of_validate_iff h).mp valid f member r effective
  rw [Rule.failsOn_notEmpty type, Validation.valueOf] at passed
  cases entry : values.get? f.id with
  | none =>
    rw [entry] at passed
    cases passed
  | some v =>
    rw [entry, Option.getD_some] at passed
    refine ⟨v, rfl, ?_⟩
    intro nothing
    rw [Value.isEmpty_iff.mpr nothing] at passed
    cases passed

/-- A form with a required field that says itself that it must not be empty, beside another rule
    and a rule of an unknown type, and with one that leaves it to the form. -/
def signUp : Schema where
  id := "sign-up"
  name := "Sign up"
  fields := [
    { id := "name", type := .text, label := "Name", required := true
      rules := [⟨"nickname", none, "Unknown"⟩, ⟨"maxLength", some (.number 3), "Too long"⟩,
        ⟨"notEmpty", none, "Who are you?"⟩] },
    { id := "note", type := .textarea, label := "Note" },
    { id := "mail", type := .text, label := "Mail", required := true
      rules := [⟨"email", none, "No address"⟩] }]
  ids_nodup := by decide

theorem validate_errors_signUp :
    signUp.validate [("mail", .text " "), ("name", .text "Beatrice")] =
      .ok [("name", ["Too long"]), ("mail", ["Mail is required", "No address"])] ∧
    signUp.validate [("mail", .text "b@home.org"), ("name", .text "Bea")] = .ok [] ∧
    (signUp.fields.filter (fun f => f.failsOn
      (Validation.valueOf [("mail", .text " "), ("name", .text "Beatrice")] f.id))).map Field.id =
        ["name", "mail"] ∧
    (∃ v, Record.get? [("mail", Value.text "b@home.org"), ("name", .text "Bea")] "name" = some v ∧
      ¬ v.HasNothing) := by
  have failing : signUp.validate [("mail", .text " "), ("name", .text "Beatrice")] =
      .ok [("name", ["Too long"]), ("mail", ["Mail is required", "No address"])] := rfl
  have passing : signUp.validate [("mail", .text "b@home.org"), ("name", .text "Bea")] = .ok [] := by
    rfl
  refine ⟨failing, passing, (validate_errors failing).1.symm, ?_⟩
  exact (validate_errors passing).2.2.2 rfl _ List.mem_cons_self rfl

end Schema

end FormEngine
