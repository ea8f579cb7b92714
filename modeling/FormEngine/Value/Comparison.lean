/-
  FormEngine/Value/Comparison.lean
  ================================
  **Equality and order of form values**, as the operators of expressions use them.

  Strict equality asks for the same kind and the same value, or the same object
  where the values are compound.  Loose equality first converts: a boolean is its
  number, a text meets a number as a number, a container meets a scalar as text;
  two containers are equal only as objects.  The order compares two texts by code
  points and everything else by number; NaN is unordered.
-/
import FormEngine.Value.Conversion

namespace FormEngine.Value

/-! ### Equality -/

/-- Same kind and same value; compound values are equal only as objects. -/
def strictEquals (v w : Value) : Bool :=
  match v, w with
  | .null, .null => true
  | .number m, .number n => m.equals n
  | .bool a, .bool b => decide (a = b)
  | .text s, .text t => decide (s = t)
  | v, w => v.sameObject w

/-- A boolean as its number. -/
def boolAsNumber : Value → Value
  | .bool b => .number (if b then 1 else 0)
  | v => v

/-- Loose equality where neither side is null, boolean or a container. -/
def scalarEquals : Value → Value → Except NumeralError Bool
  | .number m, .number n => .ok (m.equals n)
  | .text s, .text t => .ok (decide (s = t))
  | .number m, .text t => do return m.equals (← Number.ofText t)
  | .text s, .number n => do return (← Number.ofText s).equals n
  | v, w => .ok (v.sameObject w)

/-- Equality with conversion. -/
def looseEquals (v w : Value) : Except NumeralError Bool :=
  if v.isNull || w.isNull then .ok (v.isNull && w.isNull)
  else
    let v := v.boolAsNumber
    let w := w.boolAsNumber
    if v.isContainer && w.isContainer then .ok (v.sameObject w)
    else if v.isContainer || w.isContainer then do
      scalarEquals (← v.toPrimitive) (← w.toPrimitive)
    else scalarEquals v w

/-! ### Order -/

/-- The order of two texts by code points. -/
def compareTexts (s t : String) : Ordering :=
  if s = t then .eq else if s < t then .lt else .gt

/-- The order of two values, none where one is not a number and they are not both text. -/
def compare (v w : Value) : Except NumeralError (Option Ordering) := do
  match ← v.toPrimitive, ← w.toPrimitive with
  | .text s, .text t => return some (compareTexts s t)
  | v, w => return (← v.toNumber).compare? (← w.toNumber)

end FormEngine.Value
