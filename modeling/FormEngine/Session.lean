/-
  FormEngine/Session.lean
  =======================
  **The state of a form while it is being filled in.**

  Setting a field recomputes the derived fields and validates the whole form.
  Failures of derived fields are kept apart from validation errors, so that a
  broken derived field goes on showing its last value.  Which fields have been
  touched decides what the page shows; touching changes nothing else.
-/
import FormEngine.Derived.Update
import FormEngine.Validation.Form

namespace FormEngine

structure FormState where
  values : Record Value
  errors : FieldErrors := []
  touched : Record Bool := []
  isValid : Bool := false
  derivedErrors : DerivedErrors := []
deriving Repr

/-- How a change of a field can fail. -/
inductive ChangeError where
  | unknownField (field form : String)
  | numeral (error : NumeralError)
deriving DecidableEq, Repr

def ChangeError.message : ChangeError → String
  | .unknownField field form => "Unknown field '" ++ field ++ "' in form '" ++ form ++ "'"
  | .numeral error => error.message

namespace Schema

/-- The value of every field at the start. -/
def initialValues (s : Schema) (now : Nat := 0) : Record Value :=
  s.fields.map (fun f => (f.id, f.initialValue now))

/-- The state of a session that begins at the time `now`: derived fields are computed, nothing is
    validated yet. -/
def initialState (settings : Settings) (s : Schema) (now : Nat := 0) :
    Except NumeralError FormState := do
  let u ← s.update settings (s.initialValues now) now
  return { values := u.values, derivedErrors := u.errors }

end Schema

namespace FormState

/-- Marks a field as touched. -/
def touch (state : FormState) (id : String) : FormState :=
  { state with touched := state.touched.set id true }

/-- Marks every field of the form as touched. -/
def touchAll (state : FormState) (s : Schema) : FormState :=
  s.ids.foldl touch state

/-- Sets one field, recomputes the derived fields at the time `now`, and validates the form. -/
def change (settings : Settings) (s : Schema) (state : FormState) (id : String) (v : Value)
    (now : Nat := 0) : Except ChangeError FormState :=
  match s.field? id with
  | none => .error (.unknownField id s.id)
  | some _ => do
    let u ← (s.update settings (state.values.set id v) now).mapError .numeral
    let errors ← (s.validate u.values).mapError .numeral
    return {
      values := u.values
      errors := errors
      touched := state.touched.set id true
      isValid := errors.isEmpty
      derivedErrors := u.errors }

end FormState

end FormEngine
