/-
  FormEngine/Derived/Update.lean
  ==============================
  **Recomputing all derived fields of a form.**

  Fields are computed parents first, each from the values as they are by then.  A
  field that fails keeps its value and is reported, as is every field that cycles
  block; fields that are not derived are never touched.

  A recomputation takes place at a time, and each field is evaluated on an occasion
  of its own.  So the lists that it makes are new objects, also if a field had a list
  with the same elements before.
-/
import FormEngine.Derived.Computation
import FormEngine.Derived.Graph

namespace FormEngine

/-- A failure together with the field it belongs to. -/
structure FieldFault where
  field : String
  fault : DerivedFault
deriving Repr

/-- The failures of derived fields, each under the field's id. -/
abbrev DerivedErrors := Record FieldFault

/-- Values after a recomputation, and the failures on the way. -/
structure DerivedUpdate where
  values : Record Value
  errors : DerivedErrors := []
deriving Repr

namespace DerivedUpdate

/-- Reports a failure. -/
def report (u : DerivedUpdate) (id : String) (fault : DerivedFault) : DerivedUpdate :=
  { u with errors := u.errors.set id ⟨id, fault⟩ }

/-- Stores a computed value. -/
def store (u : DerivedUpdate) (id : String) (v : Value) : DerivedUpdate :=
  { u with values := u.values.set id v }

/-- Puts the outcome of a computation in. -/
def settle (u : DerivedUpdate) (id : String) : Except DerivedFault Value → DerivedUpdate
  | .ok v => u.store id v
  | .error fault => u.report id fault

end DerivedUpdate

namespace Schema

/-- The dependencies between the derived fields. -/
def dependencies (s : Schema) : DependencyGraph :=
  DependencyGraph.ofFields
    (s.fields.filterMap (fun f => f.derivation?.map (fun d => (f.id, d.parents))))

/-- The order in which derived fields are computed, and those that are blocked. -/
def resolution (settings : Settings) (s : Schema) : Resolution :=
  s.dependencies.resolve settings.cyclePolicy

/-- Computes one field and puts the outcome in. -/
def recompute (settings : Settings) (s : Schema) (now : Nat) (u : DerivedUpdate) (id : String) :
    Except NumeralError DerivedUpdate :=
  match (s.field? id).bind Field.derivation? with
  | none => .ok u
  | some d => do return u.settle id (← d.compute settings (s.parentAliases d) u.values ⟨now, id⟩)

/-- Recomputes all derived fields at the time `now`. -/
def update (settings : Settings) (s : Schema) (values : Record Value) (now : Nat := 0) :
    Except NumeralError DerivedUpdate :=
  let resolution := s.resolution settings
  let start := resolution.blocked.foldl (fun u id => u.report id .circular)
    ({ values } : DerivedUpdate)
  resolution.order.foldlM (s.recompute settings now) start

end Schema

end FormEngine
