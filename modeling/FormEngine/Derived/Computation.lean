/-
  FormEngine/Derived/Computation.lean
  ===================================
  **Computing one derived value.**

  The expression of a derived field sees its parents, each under its id, and under
  its alias where that is a usable name and not taken.  A computation fails when a
  parent has no value, when there is no expression, or when the expression fails;
  the failure is data, to be reported beside the values (`DerivedFault`).
-/
import FormEngine.Expression.Sandbox
import FormEngine.Schema.Basic

namespace FormEngine

/-! ### Failures -/

/-- Why a derived field has no new value. -/
inductive DerivedFault where
  | missingParents (ids : List String)
  | blankLogic
  | expression (error : ExpressionError)
  | circular
deriving Repr

/-- The kinds of failure that are told apart in reports. -/
inductive DerivedFaultKind where
  | invalidExpression
  | missingParent
  | evaluationError
  | circularDependency
deriving DecidableEq, Repr

def DerivedFaultKind.name : DerivedFaultKind → String
  | .invalidExpression => "invalid_expression"
  | .missingParent => "missing_parent"
  | .evaluationError => "evaluation_error"
  | .circularDependency => "circular_dependency"

namespace DerivedFault

/-- An expression that is malformed is told apart from one that is refused or fails. -/
def kind : DerivedFault → DerivedFaultKind
  | .missingParents _ => .missingParent
  | .blankLogic => .invalidExpression
  | .expression error => if error.kind = .invalid then .invalidExpression else .evaluationError
  | .circular => .circularDependency

def message : DerivedFault → String
  | .missingParents ids => "Missing parent field values: " ++ String.intercalate ", " ids
  | .blankLogic => "Computation logic must be a non-empty string"
  | .expression error => error.message
  | .circular => "Circular dependency detected in derived fields"

end DerivedFault

/-! ### Computation -/

namespace Derivation

/-- The parents that have no value. -/
def missingParents (d : Derivation) (values : Record Value) : List String :=
  d.parents.filter (fun p => !values.has p)

/-- The parents under their ids. -/
def parentBindings (d : Derivation) (values : Record Value) : Bindings :=
  Record.ofEntries (d.parents.filterMap (fun p => (values.get? p).map (fun v => (p, v))))

/-- Binds an alias of a bound parent, unless the alias is bound already or is no usable name. -/
def bindAlias (bindings : Bindings) (named : String × String) : Bindings :=
  match bindings.get? named.1 with
  | some v =>
    if !bindings.has named.2 && Screening.isBindable named.2 then bindings.set named.2 v
    else bindings
  | none => bindings

/-- The variables that the expression sees. -/
def bindings (d : Derivation) (values : Record Value) (aliases : Record String) : Bindings :=
  aliases.foldl bindAlias (d.parentBindings values)

/-- The value of the derivation, or why it has none. -/
def compute (settings : Settings) (d : Derivation) (aliases : Record String)
    (values : Record Value) (occasion : Occasion := {}) :
    Except NumeralError (Except DerivedFault Value) :=
  match d.missingParents values with
  | [] =>
    if Text.isBlankText d.logic.toList then .ok (.error .blankLogic)
    else
      match evaluateExpression settings (.text d.logic) (d.bindings values aliases) occasion with
      | .ok v => .ok (.ok v)
      | .error (.error e) => .ok (.error (.expression e))
      | .error (.numeral e) => .error e
  | missing => .ok (.error (.missingParents missing))

end Derivation

end FormEngine
