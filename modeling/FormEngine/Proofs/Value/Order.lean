/-
  FormEngine/Proofs/Value/Order.lean
  ==================================
  **The order of form values, and how equality agrees with it.**

  Exchanging the sides of a comparison turns its result (`compare_swap`).  Together
  with the laws of the two equalities this is
  `looseEquals_strictEquals_compare_comm`.

  Equality converts its operands on another way than the order does: it takes
  booleans first, converts a container only when it meets a scalar, and looks at
  numbers as they are.  On scalars and containers that are not compared as objects,
  with integers in the safe range, both ways lead to the same answer
  (`looseEquals_eq_compare`), so `==` holds exactly where `<=` and `>=` both do
  (`looseEquals_compare_operators`).
-/
import FormEngine.Expression.Evaluation
import FormEngine.Proofs.Number.NormalForm
import FormEngine.Proofs.Value.Equality

namespace FormEngine.Value

variable {v w p q : Value} {o : Option Ordering}

/-! ### Texts and primitives -/

theorem compareTexts_swap (s t : String) : compareTexts t s = (compareTexts s t).swap := by
  unfold compareTexts
  by_cases same : s = t
  · simp [same]
  rw [if_neg same, if_neg (Ne.symm same)]
  by_cases less : s < t
  · simp [less, String.lt_asymm less]
  · have greater : t < s := by
      by_contra notGreater
      exact same (String.le_antisymm notGreater less)
    simp [less, greater]

theorem compareTexts_eq_iff {s t : String} : compareTexts s t = .eq ↔ s = t := by
  unfold compareTexts
  by_cases same : s = t
  · simp [same]
  · by_cases less : s < t
    · simp [same, less]
    · simp [same, less]

/-- The order of two values that are not converted to text any more. -/
def comparePrimitives (p q : Value) : Except NumeralError (Option Ordering) :=
  match p, q with
  | .text s, .text t => .ok (some (compareTexts s t))
  | p, q => do return (← p.toNumber).compare? (← q.toNumber)

theorem compare_eq (v w : Value) :
    v.compare w = (do comparePrimitives (← v.toPrimitive) (← w.toPrimitive)) := rfl

/-- Unless both are texts, two primitives are compared as numbers. -/
theorem comparePrimitives_numbers (notTexts : ∀ s t, p = .text s → q ≠ .text t) :
    comparePrimitives p q = (do return (← p.toNumber).compare? (← q.toNumber)) := by
  unfold comparePrimitives
  split
  · next s t => exact absurd rfl (notTexts s t rfl)
  · rfl

theorem comparePrimitives_swap (h : comparePrimitives p q = .ok o) :
    comparePrimitives q p = .ok (o.map Ordering.swap) := by
  by_cases texts : ∃ s t, p = .text s ∧ q = .text t
  · obtain ⟨s, t, rfl, rfl⟩ := texts
    cases h
    exact congrArg (fun order => Except.ok (some order)) (compareTexts_swap s t)
  · simp only [not_exists, not_and] at texts
    rw [comparePrimitives_numbers texts] at h
    obtain ⟨x, left, h⟩ := Except.bind_eq_ok_iff.mp h
    obtain ⟨y, right, h⟩ := Except.bind_eq_ok_iff.mp h
    cases h
    rw [comparePrimitives_numbers (fun t s isText => fun other => texts s t other isText),
      right, left]
    exact congrArg Except.ok (Number.compare?_swap x y)

/-! ### Values -/

theorem compare_swap_of (h : v.compare w = .ok o) : w.compare v = .ok (o.map Ordering.swap) := by
  rw [compare_eq] at h ⊢
  obtain ⟨p, first, h⟩ := Except.bind_eq_ok_iff.mp h
  obtain ⟨q, second, h⟩ := Except.bind_eq_ok_iff.mp h
  rw [second, first]
  exact comparePrimitives_swap h

/-- **Exchanging the sides turns the order.** -/
theorem compare_swap : v.compare w = .ok o ↔ w.compare v = .ok (o.map Ordering.swap) := by
  constructor
  · exact compare_swap_of
  · intro h
    have turned := compare_swap_of h
    have twice : (o.map Ordering.swap).map Ordering.swap = o := by
      cases o with
      | none => rfl
      | some order => exact congrArg some Ordering.swap_swap
    rw [twice] at turned
    exact turned

theorem exists_compare (left : v.IsConvertible) (right : w.IsConvertible) :
    ∃ o, v.compare w = .ok o := by
  obtain ⟨p, first, x, readLeft⟩ := left
  obtain ⟨q, second, y, readRight⟩ := right
  rw [compare_eq, first, second]
  change ∃ o, comparePrimitives p q = .ok o
  by_cases texts : ∃ s t, p = .text s ∧ q = .text t
  · obtain ⟨s, t, rfl, rfl⟩ := texts
    exact ⟨_, rfl⟩
  · simp only [not_exists, not_and] at texts
    rw [comparePrimitives_numbers texts, readLeft, readRight]
    exact ⟨_, rfl⟩

/-- **The laws of the equalities and the order.**  Loose equality does not depend on the side on
    which a value stands, and its recursion ends on values that can be converted, with the answer
    that its rules derive.  Strict equality is symmetric and transitive, only NaN differs from
    itself, and what is strictly equal is loosely equal, given that one object is not a container
    and something else as well.  A comparison turns with its sides, and has an answer on values
    that can be converted. -/
theorem looseEquals_strictEquals_compare_comm (v w : Value) :
    v.looseEquals w = w.looseEquals v ∧
    (∀ r, v.looseEquals w = .ok r ↔ Equates v w r) ∧
    (v.IsConvertible → w.IsConvertible →
      (∃ r, Equates v w r) ∧ ∃ o, v.compare w = .ok o) ∧
    v.strictEquals w = w.strictEquals v ∧
    ((v.sameObject w = true → v.isContainer = w.isContainer) →
      v.strictEquals w = true → v.looseEquals w = .ok true) ∧
    (∀ u : Value, u.strictEquals v = true → v.strictEquals w = true → u.strictEquals w = true) ∧
    (v.strictEquals v = true ↔ v ≠ .number Number.nan) ∧
    ∀ o, v.compare w = .ok o ↔ w.compare v = .ok (o.map Ordering.swap) := by
  refine ⟨looseEquals_comm v w, ?_, ?_, strictEquals_comm v w, ?_, ?_, ?_, ?_⟩
  · intro r
    exact looseEquals_eq_ok_iff
  · intro left right
    obtain ⟨r, found⟩ := exists_looseEquals left right
    exact ⟨⟨r, looseEquals_eq_ok_iff.mp found⟩, exists_compare left right⟩
  · intro oneKind same
    exact looseEquals_of_strictEquals oneKind same
  · intro u first second
    exact strictEquals_trans first second
  · exact strictEquals_self_iff
  · intro o
    exact compare_swap

/-- A list with one text that is read as one, against a tick. -/
theorem looseEquals_strictEquals_compare_comm_ticked :
    ∃ ticked : Value, ticked = .list (.read 0 0) [.text " 1 "] ∧
      (∃ r, Equates ticked (.bool true) r) ∧
      (Value.bool true).looseEquals ticked = .ok true ∧
      (Value.bool true).compare ticked = .ok (some .eq) ∧
      ticked.strictEquals ticked = true ∧ ticked.looseEquals ticked = .ok true := by
  obtain ⟨exchanged, _, ends, _, _, _, _, turned⟩ :=
    looseEquals_strictEquals_compare_comm (.list (.read 0 0) [.text " 1 "]) (.bool true)
  obtain ⟨_, _, _, _, loose, _, self, _⟩ :=
    looseEquals_strictEquals_compare_comm (.list (.read 0 0) [.text " 1 "])
      (.list (.read 0 0) [.text " 1 "])
  have same : (Value.list (.read 0 0) [.text " 1 "]).strictEquals
      (.list (.read 0 0) [.text " 1 "]) = true := by
    apply self.mpr
    intro isNaN
    cases isNaN
  refine ⟨_, rfl, ?_, exchanged.symm, (turned (some .eq)).mp rfl, same, loose (fun _ => rfl) same⟩
  exact (ends ⟨_, rfl, _, rfl⟩ ⟨_, rfl, _, rfl⟩).1

/-! ### Order and loose equality -/

/-- A boolean, an integer in the safe range, a binary64 number, a text or a container. -/
def IsPlain : Value → Prop
  | .bool _ | .number (.float _) | .text _ | .list _ _ | .tuple _ _ | .mapping _ _ => True
  | .number (.int n) => n.natAbs ≤ Number.maxSafeInteger
  | .null | .set _ _ | .date _ _ | .function _ => False

/-- A text, or a number that normalising does not change. -/
def IsComparand (p : Value) : Prop := (∃ s, p = .text s) ∨ ∃ x, p = .number x ∧ x.IsExact

theorem isPlain_boolAsNumber (h : v.IsPlain) : v.boolAsNumber.IsPlain := by
  cases v with
  | bool b =>
    cases b with
    | true => exact Nat.one_le_ofNat
    | false => exact Nat.zero_le _
  | _ => exact h

theorem isContainer_boolAsNumber (v : Value) : v.boolAsNumber.isContainer = v.isContainer := by
  cases v <;> rfl

theorem IsPlain.isNull_eq_false (h : v.IsPlain) : v.isNull = false := by
  cases v with
  | null => exact h.elim
  | _ => rfl

theorem toNumber_boolAsNumber (v : Value) : v.boolAsNumber.toNumber = v.toNumber := by
  cases v with
  | bool b => cases b <;> rfl
  | _ => rfl

theorem boolAsNumber_eq_text_iff {s : String} : v.boolAsNumber = .text s ↔ v = .text s := by
  cases v <;> simp [boolAsNumber]

theorem toPrimitive_boolAsNumber (v : Value) :
    v.boolAsNumber.toPrimitive = (do return (← v.toPrimitive).boolAsNumber) := by
  cases v with
  | list i items | tuple i items =>
    simp only [boolAsNumber, toPrimitive]
    cases toText _ <;> rfl
  | null | bool | number | text | set | mapping | date | function => rfl

theorem comparePrimitives_boolAsNumber (p q : Value) :
    comparePrimitives p.boolAsNumber q.boolAsNumber = comparePrimitives p q := by
  by_cases texts : ∃ s t, p = .text s ∧ q = .text t
  · obtain ⟨s, t, rfl, rfl⟩ := texts
    rfl
  · simp only [not_exists, not_and] at texts
    rw [comparePrimitives_numbers texts, comparePrimitives_numbers, toNumber_boolAsNumber,
      toNumber_boolAsNumber]
    intro s t first second
    exact texts s t (boolAsNumber_eq_text_iff.mp first) (boolAsNumber_eq_text_iff.mp second)

/-- A boolean is ordered as its number. -/
theorem compare_boolAsNumber (v w : Value) :
    v.boolAsNumber.compare w.boolAsNumber = v.compare w := by
  rw [compare_eq, compare_eq, toPrimitive_boolAsNumber, toPrimitive_boolAsNumber]
  cases v.toPrimitive with
  | error e => rfl
  | ok p =>
    cases w.toPrimitive with
    | error e => rfl
    | ok q => exact comparePrimitives_boolAsNumber p q

theorem IsPlain.isComparand (plain : v.IsPlain) (bare : v.IsBare) (h : v.toPrimitive = .ok p) :
    p.IsComparand := by
  cases v with
  | null | set | date | function => exact plain.elim
  | bool b => cases bare.2
  | text s =>
    cases h
    exact Or.inl ⟨s, rfl⟩
  | number x =>
    cases h
    refine Or.inr ⟨x, rfl, ?_⟩
    cases x with
    | int n => exact Number.isExact_int_of_le plain
    | float x => exact Number.isExact_float x
  | list | tuple | mapping =>
    obtain ⟨s, _, written⟩ := Except.bind_eq_ok_iff.mp h
    cases written
    exact Or.inl ⟨s, rfl⟩

/-- Two comparands stand at one place of the order exactly if they are equal. -/
theorem scalarEquals_eq_comparePrimitives (left : p.IsComparand) (right : q.IsComparand) :
    scalarEquals p q = (comparePrimitives p q).map (fun o => decide (o = some .eq)) := by
  rcases left with ⟨s, rfl⟩ | ⟨x, rfl, left⟩
  · rcases right with ⟨t, rfl⟩ | ⟨y, rfl, right⟩
    · refine congrArg Except.ok ?_
      rw [decide_eq_decide, Option.some_inj, compareTexts_eq_iff]
    · simp only [scalarEquals, comparePrimitives, toNumber]
      cases Number.ofText s with
      | error e => rfl
      | ok x =>
        have same : decide (x.compare? y.normalise = some .eq) = x.equals y := by
          rw [Number.decide_compare?_eq, right.equals_right]
        exact congrArg Except.ok same.symm
  · rcases right with ⟨t, rfl⟩ | ⟨y, rfl, right⟩
    · simp only [scalarEquals, comparePrimitives, toNumber]
      cases Number.ofText t with
      | error e => rfl
      | ok y =>
        have same : decide (x.normalise.compare? y = some .eq) = x.equals y := by
          rw [Number.decide_compare?_eq, left.equals_left]
        exact congrArg Except.ok same.symm
    · have same : decide (x.normalise.compare? y.normalise = some .eq) = x.equals y := by
        rw [Number.decide_compare?_eq, left.equals_left, right.equals_right]
      exact congrArg Except.ok same.symm

theorem IsPlain.toPrimitive (plain : v.IsPlain) (scalar : v.isContainer = false) :
    v.toPrimitive = .ok v := by
  cases v with
  | null | set | date | function => exact plain.elim
  | list | tuple | mapping => cases scalar
  | bool | number | text => rfl

/-- Plain values are compared as the primitives that they become. -/
theorem looseEquals_eq_scalarEquals (left : v.IsPlain) (right : w.IsPlain) (bareLeft : v.IsBare)
    (bareRight : w.IsBare) (apart : ¬(v.isContainer = true ∧ w.isContainer = true)) :
    v.looseEquals w = (do scalarEquals (← v.toPrimitive) (← w.toPrimitive)) := by
  rcases isContainer_cases v w with both | ⟨first, second⟩ | one
  · exact absurd both apart
  · rw [looseEquals_scalars bareLeft bareRight first second, left.toPrimitive first,
      right.toPrimitive second]
    rfl
  · exact looseEquals_container bareLeft bareRight one

theorem looseEquals_eq_compare_of_isBare (left : v.IsPlain) (right : w.IsPlain)
    (bareLeft : v.IsBare) (bareRight : w.IsBare)
    (apart : ¬(v.isContainer = true ∧ w.isContainer = true)) :
    v.looseEquals w = (v.compare w).map (fun o => decide (o = some .eq)) := by
  rw [looseEquals_eq_scalarEquals left right bareLeft bareRight apart, compare_eq]
  cases first : v.toPrimitive with
  | error e => rfl
  | ok p =>
    cases second : w.toPrimitive with
    | error e => rfl
    | ok q =>
      exact scalarEquals_eq_comparePrimitives (left.isComparand bareLeft first)
        (right.isComparand bareRight second)

/-- **The order tells plain values apart as loose equality does.** -/
theorem looseEquals_eq_compare (left : v.IsPlain) (right : w.IsPlain)
    (apart : ¬(v.isContainer = true ∧ w.isContainer = true)) :
    v.looseEquals w = (v.compare w).map (fun o => decide (o = some .eq)) := by
  rw [← looseEquals_boolAsNumber, ← compare_boolAsNumber]
  rw [← isContainer_boolAsNumber v, ← isContainer_boolAsNumber w] at apart
  apply looseEquals_eq_compare_of_isBare
  · exact isPlain_boolAsNumber left
  · exact isPlain_boolAsNumber right
  · exact isBare_boolAsNumber left.isNull_eq_false
  · exact isBare_boolAsNumber right.isNull_eq_false
  · exact apart

/-! ### Operators -/

open Evaluation

theorem relation_eq_true_iff {accepted : List Ordering} :
    relation accepted v w = .ok (.bool true) ↔
      ∃ order, v.compare w = .ok (some order) ∧ order ∈ accepted := by
  unfold relation
  cases v.compare w with
  | error e => simp [bind, Except.bind]
  | ok o =>
    cases o with
    | none => simp [bind, Except.bind, pure, Except.pure]
    | some order => simp [bind, Except.bind, pure, Except.pure]

theorem eq_operator_iff : binaryOp .eq v w = .ok (.bool true) ↔ v.looseEquals w = .ok true := by
  unfold binaryOp
  cases v.looseEquals w with
  | error e => simp [bind, Except.bind]
  | ok r => simp [bind, Except.bind, pure, Except.pure]

/-- The order has one answer, so it is "same place" exactly if both relations hold. -/
theorem le_and_ge_iff :
    (binaryOp .le v w = .ok (.bool true) ∧ binaryOp .ge v w = .ok (.bool true)) ↔
      v.compare w = .ok (some .eq) := by
  simp only [binaryOp, relation_eq_true_iff]
  constructor
  · rintro ⟨⟨order, found, less⟩, other, again, greater⟩
    rw [found] at again
    cases again
    cases order with
    | eq => exact found
    | lt => simp at greater
    | gt => simp at less
  · intro found
    exact ⟨⟨.eq, found, by simp⟩, .eq, found, by simp⟩

/-- **Loose equality is the same place of the order.**  On plain values, not both of them
    containers, loose equality and the order agree, in failing too; so `==` holds exactly if `<=`
    and `>=` both hold, and both have an answer on values that can be converted. -/
theorem looseEquals_compare_operators (left : v.IsPlain) (right : w.IsPlain)
    (apart : ¬(v.isContainer = true ∧ w.isContainer = true)) :
    v.looseEquals w = (v.compare w).map (fun o => decide (o = some .eq)) ∧
    (binaryOp .eq v w = .ok (.bool true) ↔
      binaryOp .le v w = .ok (.bool true) ∧ binaryOp .ge v w = .ok (.bool true)) ∧
    (v.IsConvertible → w.IsConvertible → ∃ o, v.compare w = .ok o) := by
  have agree := looseEquals_eq_compare left right apart
  refine ⟨agree, ?_, exists_compare⟩
  rw [eq_operator_iff, le_and_ge_iff, agree]
  cases v.compare w with
  | error e => simp [Except.map]
  | ok o => simp [Except.map]

/-- A container meets a number as the number in its text. -/
theorem looseEquals_compare_operators_hexadecimal :
    ∃ entry : Value, entry = .tuple (.read 0 0) [.text "0x10"] ∧
      binaryOp .le entry (.number 16) = .ok (.bool true) ∧
      binaryOp .ge entry (.number 16) = .ok (.bool true) := by
  have safe : IsPlain (.number (.int 16)) := by
    change Int.natAbs 16 ≤ Number.maxSafeInteger
    decide
  have apart : ¬((Value.tuple (.read 0 0) [.text "0x10"]).isContainer = true ∧
      (Value.number (.int 16)).isContainer = true) := by decide
  obtain ⟨_, operators, _⟩ :=
    looseEquals_compare_operators (v := .tuple (.read 0 0) [.text "0x10"]) trivial safe apart
  exact ⟨_, rfl, operators.mp rfl⟩

end FormEngine.Value
