/-
  FormEngine/Validation/Message.lean
  ==================================
  **What the user is told about a rule**: the message that a rule starts out with,
  a hint before anything is typed, and advice on the value at hand.

  Advice has a headline, a suggestion and a severity; it is an error while the
  value does not satisfy the rule and information once it does.
-/
import FormEngine.Validation.Rule

namespace FormEngine

/-! ### Messages and hints -/

/-- The message for a rule of this type on a field with this label. -/
def RuleType.defaultMessage (type : Option RuleType) (label : String) (bound : Value) :
    Except NumeralError String :=
  match type with
  | some .notEmpty => .ok (label ++ " is required")
  | some .minLength => do
    return label ++ " must be at least " ++ (← Validation.shownText bound) ++ " characters long"
  | some .maxLength => do
    return label ++ " must not exceed " ++ (← Validation.shownText bound) ++ " characters"
  | some .email => .ok (label ++ " must be a valid email address")
  | some .customPassword =>
    .ok (label ++ " must contain at least 8 characters, one uppercase letter, "
      ++ "one lowercase letter, one number, and one special character")
  | none => .ok (label ++ " is invalid")

/-- The hint beside a field with a rule of this type. -/
def RuleType.hint (type : Option RuleType) (bound : Value) : Except NumeralError String :=
  match type with
  | some .notEmpty => .ok "This field cannot be left empty"
  | some .minLength => do
    return "Enter at least " ++ (← Validation.shownText bound) ++ " characters"
  | some .maxLength => do
    return "Keep it under " ++ (← Validation.shownText bound) ++ " characters"
  | some .email => .ok "Use format: example@domain.com"
  | some .customPassword =>
    .ok "Include: 8+ chars, uppercase, lowercase, number, and special character (!@#$%^&*)"
  | none => .ok "Please check your input"

/-! ### Advice -/

inductive Severity where
  | error
  | warning
  | info
deriving DecidableEq, Repr

def Severity.name : Severity → String
  | .error => "error"
  | .warning => "warning"
  | .info => "info"

/-- Advice on a value: a headline, what to do, and how serious it is. -/
structure Advice where
  message : String
  suggestion : String
  severity : Severity
deriving DecidableEq, Repr

namespace Advice

/-- An error unless the rule is satisfied. -/
def severityOf (satisfied : Bool) : Severity := if satisfied then .info else .error

/-- Null, `false`, zero, the empty text, or a collection without elements. -/
def isBare : Value → Bool
  | .null => true
  | .bool b => !b
  | .number n => n.isZero
  | .text s => s.isEmpty
  | .list _ vs | .tuple _ vs | .set _ vs => vs.isEmpty
  | .mapping _ es => es.isEmpty
  | _ => false

/-- The length of the value so far; null, `false`, zero and NaN have none. -/
def currentLength (v : Value) : Except NumeralError Int :=
  match v with
  | .null | .bool false => .ok 0
  | .number n => if n.isZero || n.isNaN then .ok 0 else Validation.lengthOf v
  | v => Validation.lengthOf v

/-- The bound as an integer, zero if it is no finite number. -/
def boundOf (v : Value) : Except NumeralError Int := do
  return ((← v.toNumber).truncated?).getD 0

/-- So many characters. -/
def characters (n : Int) (more : String) : String :=
  Text.decimal n ++ more ++ " character" ++ (if 1 < n then "s" else "")

/-- Advice on a value for a rule of this type, with this bound, on a field with this label. -/
def about (type : Option RuleType) (label : String) (v bound : Value) :
    Except NumeralError Advice :=
  match type with
  | some .notEmpty =>
    .ok ⟨label ++ " is required", "Please enter a value for this field", severityOf !v.isEmpty⟩
  | some .minLength => do
    let least ← boundOf bound
    let current ← currentLength v
    let remaining := least - current
    return {
      message := label ++ " must be at least " ++ Text.decimal least ++ " characters long"
      suggestion :=
        if 0 < remaining then
          "Add " ++ characters remaining " more" ++ " (currently " ++ Text.decimal current ++ ")"
        else "Length requirement met"
      severity := severityOf (decide (remaining ≤ 0)) }
  | some .maxLength => do
    let greatest ← boundOf bound
    let current ← currentLength v
    let excess := current - greatest
    return {
      message := label ++ " must not exceed " ++ Text.decimal greatest ++ " characters"
      suggestion :=
        if 0 < excess then
          "Remove " ++ characters excess "" ++ " (currently " ++ Text.decimal current ++ ")"
        else "Length is within limit"
      severity := severityOf (decide (excess ≤ 0)) }
  | some .email => do
    let address ← Validation.shownText v
    return ⟨label ++ " must be a valid email address", "Use format: example@domain.com",
      severityOf (Validation.isAddress address.toList)⟩
  | some .customPassword => do
    let issues ← Validation.passwordIssues (if isBare v then .text "" else v)
    return {
      message := label ++ " must meet security requirements"
      suggestion :=
        if issues.isEmpty then "Password meets all requirements"
        else "Missing: " ++ String.intercalate ", " (issues.map Validation.PasswordIssue.text)
      severity := severityOf issues.isEmpty }
  | none => .ok ⟨label ++ " is invalid", "Please check your input", .error⟩

end Advice

end FormEngine
