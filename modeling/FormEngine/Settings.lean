/-
  FormEngine/Settings.lean
  ========================
  **Settings of the engine.**

  Three settings: how long an expression may be, what a dependency cycle does to
  the other derived fields, and whether unknown rule types are reported.  Each has
  a default; settings that are given are checked in a fixed order, and the first
  that cannot be used is reported with the value that was given.
-/
import FormEngine.Record
import FormEngine.Value.Display

namespace FormEngine

/-- What a dependency cycle blocks: every derived field, or only those it reaches. -/
inductive CyclePolicy where
  | invalidateAll
  | isolate
deriving DecidableEq, Repr

/-- What happens on a rule of an unknown type: nothing, or a warning. -/
inductive UnknownRulePolicy where
  | ignore
  | warn
deriving DecidableEq, Repr

def CyclePolicy.all : List CyclePolicy := [.invalidateAll, .isolate]

def CyclePolicy.name : CyclePolicy → String
  | .invalidateAll => "invalidate_all"
  | .isolate => "isolate"

def UnknownRulePolicy.all : List UnknownRulePolicy := [.ignore, .warn]

def UnknownRulePolicy.name : UnknownRulePolicy → String
  | .ignore => "ignore"
  | .warn => "warn"

structure Settings where
  /-- The greatest number of characters of an expression. -/
  maxExpressionLength : Nat := 500
  maxExpressionLength_pos : 0 < maxExpressionLength := by decide
  cyclePolicy : CyclePolicy := .invalidateAll
  unknownRulePolicy : UnknownRulePolicy := .ignore
deriving DecidableEq, Repr

/-- A setting that cannot be used; the value that was given is shown. -/
inductive SettingsError where
  | badLength (shown : String)
  | badCyclePolicy (shown : String)
  | badUnknownRulePolicy (shown : String)
  /-- A section of the settings file that is no table. -/
  | notTable (section_ : String)
  /-- A folder stands where the settings file should be. -/
  | isDirectory (path : String)
  /-- A settings file that is malformed, in the words of its parser. -/
  | malformed (detail : String)
deriving DecidableEq, Repr

def SettingsError.message : SettingsError → String
  | .badLength shown => "max_expression_length must be a positive integer, got " ++ shown
  | .badCyclePolicy shown =>
    "cycle_policy must be one of "
      ++ String.intercalate ", " (CyclePolicy.all.map CyclePolicy.name) ++ ", got " ++ shown
  | .badUnknownRulePolicy shown =>
    "unknown_rule_policy must be one of "
      ++ String.intercalate ", " (UnknownRulePolicy.all.map UnknownRulePolicy.name)
      ++ ", got " ++ shown
  | .notTable section_ => "[" ++ section_ ++ "] must be a table"
  | .isDirectory path =>
    "Cannot read config: [Errno 21] Is a directory: " ++ Text.quoted path
  | .malformed detail => "Cannot read config: " ++ detail

/-- How settings can fail: a setting is bad, or a number in it is too long to be shown. -/
inductive SettingsFailure where
  | rejected (error : SettingsError)
  | numeral (error : NumeralError)
deriving DecidableEq, Repr

namespace Settings

/-- A cycle isolates only the fields it reaches. -/
def isolatesCycles (s : Settings) : Bool := s.cyclePolicy == .isolate

/-- Unknown rule types are reported. -/
def warnsUnknownRules (s : Settings) : Bool := s.unknownRulePolicy == .warn

/-- Rejects a value, showing it. -/
def reject {α : Type} (error : String → SettingsError) (v : Value) : Except SettingsFailure α :=
  match v.display with
  | .ok shown => .error (.rejected (error shown))
  | .error e => .error (.numeral e)

/-- A positive integer. -/
def lengthOf (v : Value) : Except SettingsFailure { n : Nat // 0 < n } :=
  match v with
  | .number (.int n) =>
    if h : 0 < n then .ok ⟨n.toNat, by omega⟩ else reject .badLength v
  | v => reject .badLength v

/-- A policy by its name. -/
def policyOf {α : Type} (all : List α) (name : α → String) (error : String → SettingsError)
    (v : Value) : Except SettingsFailure α :=
  match v with
  | .text s =>
    match all.find? (fun p => name p == s) with
    | some p => .ok p
    | none => reject error v
  | v => reject error v

/-- The settings given under their names; one that is not given has its default. -/
def ofRecord (given : Record Value) : Except SettingsFailure Settings := do
  let length ← lengthOf ((given.get? "max_expression_length").getD (.int 500))
  let cycles ←
    policyOf CyclePolicy.all CyclePolicy.name .badCyclePolicy
      ((given.get? "cycle_policy").getD (.text "invalidate_all"))
  let rules ←
    policyOf UnknownRulePolicy.all UnknownRulePolicy.name .badUnknownRulePolicy
      ((given.get? "unknown_rule_policy").getD (.text "ignore"))
  return { maxExpressionLength := length.1
           maxExpressionLength_pos := length.2
           cyclePolicy := cycles
           unknownRulePolicy := rules }

end Settings

end FormEngine
