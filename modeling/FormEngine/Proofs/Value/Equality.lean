/-
  FormEngine/Proofs/Value/Equality.lean
  =====================================
  **The two equalities of form values.**

  Strict equality is decided by the left value alone: each kind says which right
  values it equals.  So it is symmetric and transitive, and only NaN differs from
  itself (`strictEquals_self_iff`).

  Loose equality converts until it meets two values that are compared as they are.
  `Equates` states it as the recursion that it is, one rule for each conversion; the
  function finds exactly what the rules derive (`looseEquals_eq_ok_iff`).  Although
  the rules convert the left value first, the sides can be exchanged
  (`looseEquals_comm`), and the recursion ends on all values that can be converted
  (`exists_looseEquals`).
-/
import FormEngine.Proofs.Number.Comparison
import FormEngine.Proofs.Outcome
import FormEngine.Value.Comparison

namespace FormEngine.Value

variable {u v w p q : Value} {r : Bool}

/-! ### Strict equality -/

theorem sameObject_comm (v w : Value) : v.sameObject w = w.sameObject v := by
  unfold sameObject
  cases v.identity? <;> cases w.identity? <;> simp [eq_comm]

theorem sameObject_of_identity? {i : Identity} (h : v.identity? = some i) :
    v.sameObject w = true ↔ w.identity? = some i := by
  unfold sameObject
  rw [h]
  cases w.identity? <;> simp [eq_comm]

theorem strictEquals_null : Value.null.strictEquals w = true ↔ w = .null := by
  cases w with
  | null => exact iff_of_true rfl rfl
  | _ =>
    refine iff_of_false Bool.false_ne_true ?_
    intro same
    cases same

theorem strictEquals_bool {b : Bool} : (Value.bool b).strictEquals w = true ↔ w = .bool b := by
  cases w with
  | bool a =>
    change decide (b = a) = true ↔ _
    simp [eq_comm]
  | _ =>
    refine iff_of_false Bool.false_ne_true ?_
    intro same
    cases same

theorem strictEquals_number {m : Number} :
    (Value.number m).strictEquals w = true ↔ ∃ n, w = .number n ∧ m.equals n = true := by
  cases w with
  | number n =>
    change m.equals n = true ↔ _
    simp
  | _ =>
    refine iff_of_false Bool.false_ne_true ?_
    rintro ⟨n, isNumber, _⟩
    cases isNumber

theorem strictEquals_text {s : String} : (Value.text s).strictEquals w = true ↔ w = .text s := by
  cases w with
  | text t =>
    change decide (s = t) = true ↔ _
    simp [eq_comm]
  | _ =>
    refine iff_of_false Bool.false_ne_true ?_
    intro same
    cases same

/-- A compound value equals what is the same object, whatever it contains. -/
theorem strictEquals_object {i : Identity} (h : v.identity? = some i) :
    v.strictEquals w = true ↔ w.identity? = some i := by
  rw [← sameObject_of_identity? h]
  cases v with
  | null | bool | number | text => cases h
  | _ => rfl

theorem strictEquals_comm_of (h : v.strictEquals w = true) : w.strictEquals v = true := by
  cases v with
  | null =>
    cases strictEquals_null.mp h
    exact h
  | bool b =>
    cases strictEquals_bool.mp h
    exact h
  | text s =>
    cases strictEquals_text.mp h
    exact h
  | number m =>
    obtain ⟨n, rfl, same⟩ := strictEquals_number.mp h
    rw [Number.equals_comm] at same
    exact same
  | list i _ | tuple i _ | set i _ | mapping i _ | date i _ | function i =>
    have other : w.identity? = some i := (strictEquals_object rfl).mp h
    exact (strictEquals_object other).mpr rfl

theorem strictEquals_comm (v w : Value) : v.strictEquals w = w.strictEquals v := by
  rw [Bool.eq_iff_iff]
  exact ⟨strictEquals_comm_of, strictEquals_comm_of⟩

theorem strictEquals_trans (first : u.strictEquals v = true) (second : v.strictEquals w = true) :
    u.strictEquals w = true := by
  cases u with
  | null =>
    cases strictEquals_null.mp first
    exact second
  | bool b =>
    cases strictEquals_bool.mp first
    exact second
  | text s =>
    cases strictEquals_text.mp first
    exact second
  | number l =>
    obtain ⟨m, rfl, left⟩ := strictEquals_number.mp first
    obtain ⟨n, rfl, right⟩ := strictEquals_number.mp second
    exact Number.equals_trans left right
  | list i _ | tuple i _ | set i _ | mapping i _ | date i _ | function i =>
    have middle : v.identity? = some i := (strictEquals_object rfl).mp first
    have last : w.identity? = some i := (strictEquals_object middle).mp second
    exact (strictEquals_object rfl).mpr last

/-- Every value but NaN equals itself. -/
theorem strictEquals_self_iff : v.strictEquals v = true ↔ v ≠ .number Number.nan := by
  by_cases number : ∃ n, v = .number n
  · obtain ⟨n, rfl⟩ := number
    rw [strictEquals_number]
    simp [Number.equals_self_iff]
  · have notNaN : v ≠ .number Number.nan := by
      intro isNaN
      exact number ⟨_, isNaN⟩
    refine iff_of_true ?_ notNaN
    cases v with
    | number n => exact absurd ⟨n, rfl⟩ number
    | null => exact strictEquals_null.mpr rfl
    | bool => exact strictEquals_bool.mpr rfl
    | text => exact strictEquals_text.mpr rfl
    | list i _ | tuple i _ | set i _ | mapping i _ | date i _ | function i =>
      exact (strictEquals_object rfl).mpr rfl

/-! ### Conversions -/

/-- The value becomes a primitive, and the primitive a number. -/
def IsConvertible (v : Value) : Prop :=
  ∃ p, v.toPrimitive = .ok p ∧ ∃ x, p.toNumber = .ok x

/-- Neither null nor a boolean. -/
def IsBare (v : Value) : Prop := v.isNull = false ∧ v.boolAsNumber = v

theorem isBare_number (n : Number) : (Value.number n).IsBare := ⟨rfl, rfl⟩

@[simp] theorem isNull_boolAsNumber (v : Value) : v.boolAsNumber.isNull = v.isNull := by
  cases v <;> rfl

@[simp] theorem boolAsNumber_boolAsNumber (v : Value) :
    v.boolAsNumber.boolAsNumber = v.boolAsNumber := by
  cases v <;> rfl

theorem isBare_boolAsNumber (present : v.isNull = false) : v.boolAsNumber.IsBare :=
  ⟨by simp [present], boolAsNumber_boolAsNumber v⟩

/-- A value is as it is compared, or it is a boolean. -/
theorem isBare_or_bool (present : v.isNull = false) : v.IsBare ∨ ∃ b, v = .bool b := by
  cases v with
  | null => cases present
  | bool b => exact Or.inr ⟨b, rfl⟩
  | _ => exact Or.inl ⟨rfl, rfl⟩

/-- Only writing a container can fail on the way to a primitive. -/
theorem exists_toPrimitive (h : v.isContainer = false) : ∃ p, v.toPrimitive = .ok p := by
  cases v with
  | list | tuple | mapping => cases h
  | date i iso => exact ⟨.text iso, rfl⟩
  | _ => exact ⟨_, rfl⟩

theorem toPrimitive_of_isContainer (h : v.isContainer = true) :
    v.toPrimitive = (do return .text (← v.toText)) := by
  cases v with
  | list | tuple | mapping => rfl
  | null | bool | number | text | set | date | function => cases h

/-- What a value that is neither null nor a boolean becomes is compared as it is. -/
theorem IsBare.toPrimitive (bare : v.IsBare) (h : v.toPrimitive = .ok p) :
    p.IsBare ∧ p.isContainer = false := by
  cases v with
  | null => cases bare.1
  | bool b => cases bare.2
  | list | tuple =>
    obtain ⟨s, _, written⟩ := Except.bind_eq_ok_iff.mp h
    cases written
    exact ⟨⟨rfl, rfl⟩, rfl⟩
  | number | text | set | mapping | date | function =>
    cases h
    exact ⟨⟨rfl, rfl⟩, rfl⟩

theorem IsConvertible.boolAsNumber (h : v.IsConvertible) : v.boolAsNumber.IsConvertible := by
  cases v with
  | bool b => exact ⟨_, rfl, _, rfl⟩
  | _ => exact h

/-- A convertible value that is no container is a number without becoming a primitive first. -/
theorem IsConvertible.exists_toNumber (h : v.IsConvertible) (noContainer : v.isContainer = false) :
    ∃ x, v.toNumber = .ok x := by
  obtain ⟨p, primitive, x, number⟩ := h
  cases v with
  | list | tuple | mapping => cases noContainer
  | date => exact ⟨_, rfl⟩
  | null | bool | number | text | set | function =>
    cases primitive
    exact ⟨x, number⟩

/-! ### Loose equality, case by case -/

/-- Two values are both containers, both none, or only one of them is. -/
theorem isContainer_cases (v w : Value) :
    (v.isContainer = true ∧ w.isContainer = true) ∨
      (v.isContainer = false ∧ w.isContainer = false) ∨ v.isContainer ≠ w.isContainer := by
  cases first : v.isContainer with
  | true =>
    cases second : w.isContainer with
    | true => exact Or.inl ⟨rfl, rfl⟩
    | false => exact Or.inr (Or.inr Bool.noConfusion)
  | false =>
    cases second : w.isContainer with
    | true => exact Or.inr (Or.inr Bool.noConfusion)
    | false => exact Or.inr (Or.inl ⟨rfl, rfl⟩)

theorem looseEquals_of_isNull (h : v.isNull = true ∨ w.isNull = true) :
    v.looseEquals w = .ok (v.isNull && w.isNull) := by
  rw [looseEquals, if_pos (by simpa using h)]

theorem looseEquals_boolAsNumber (v w : Value) :
    v.boolAsNumber.looseEquals w.boolAsNumber = v.looseEquals w := by
  simp only [looseEquals, isNull_boolAsNumber, boolAsNumber_boolAsNumber]

theorem looseEquals_containers (left : v.isContainer = true) (right : w.isContainer = true) :
    v.looseEquals w = .ok (v.sameObject w) := by
  cases v <;> cases left <;> cases w <;> cases right <;> rfl

theorem looseEquals_container (left : v.IsBare) (right : w.IsBare)
    (one : v.isContainer ≠ w.isContainer) :
    v.looseEquals w = (do scalarEquals (← v.toPrimitive) (← w.toPrimitive)) := by
  have notBoth : (v.isContainer && w.isContainer) = false := by
    cases first : v.isContainer <;> cases second : w.isContainer <;> simp_all
  have either : (v.isContainer || w.isContainer) = true := by
    cases first : v.isContainer <;> cases second : w.isContainer <;> simp_all
  simp [looseEquals, left.1, left.2, right.1, right.2, notBoth, either]

theorem looseEquals_scalars (left : v.IsBare) (right : w.IsBare) (first : v.isContainer = false)
    (second : w.isContainer = false) : v.looseEquals w = scalarEquals v w := by
  simp [looseEquals, left.1, left.2, right.1, right.2, first, second]

theorem scalarEquals_comm (v w : Value) : scalarEquals v w = scalarEquals w v := by
  cases v with
  | number m =>
    cases w with
    | number n => exact congrArg Except.ok (Number.equals_comm m n)
    | text t => simp [scalarEquals, Number.equals_comm m]
    | _ => rfl
  | text s =>
    cases w with
    | number n => simp [scalarEquals, Number.equals_comm n]
    | text t => simp [scalarEquals, eq_comm]
    | _ => rfl
  | null | bool | list | tuple | set | mapping | date | function =>
    cases w with
    | number | text => rfl
    | _ => exact congrArg Except.ok (sameObject_comm _ _)

theorem looseEquals_comm_of_isBare (left : v.IsBare) (right : w.IsBare) :
    v.looseEquals w = w.looseEquals v := by
  rcases isContainer_cases v w with ⟨first, second⟩ | ⟨first, second⟩ | one
  · rw [looseEquals_containers first second, looseEquals_containers second first, sameObject_comm]
  · rw [looseEquals_scalars left right first second, looseEquals_scalars right left second first,
      scalarEquals_comm]
  · rw [looseEquals_container left right one, looseEquals_container right left (Ne.symm one)]
    -- only the container can fail to become a primitive
    cases first : v.isContainer with
    | false =>
      obtain ⟨p, primitive⟩ := exists_toPrimitive first
      rw [primitive]
      exact bind_congr (fun q => scalarEquals_comm p q)
    | true =>
      have second : w.isContainer = false := by simpa [first] using Ne.symm one
      obtain ⟨q, primitive⟩ := exists_toPrimitive second
      rw [primitive]
      exact bind_congr (fun p => scalarEquals_comm p q)

/-- **The sides of loose equality can be exchanged.** -/
theorem looseEquals_comm (v w : Value) : v.looseEquals w = w.looseEquals v := by
  by_cases null : v.isNull = true ∨ w.isNull = true
  · rw [looseEquals_of_isNull null, looseEquals_of_isNull null.symm, Bool.and_comm]
  · simp only [not_or, Bool.not_eq_true] at null
    rw [← looseEquals_boolAsNumber, ← looseEquals_boolAsNumber w]
    apply looseEquals_comm_of_isBare
    · exact isBare_boolAsNumber null.1
    · exact isBare_boolAsNumber null.2

/-! ### Loose equality as a recursion -/

/-- A set, a date or a function: compared only as an object, unless it is converted. -/
def isOpaque : Value → Bool
  | .set _ _ | .date _ _ | .function _ => true
  | _ => false

/-- **The rules of loose equality.**  A rule that converts starts again with what it has
    converted: a boolean with its number, the left one first, and a container that meets a
    scalar with the text of both, where the scalar is one that becomes text. -/
inductive Equates : Value → Value → Bool → Prop
  | null {v w : Value} (null : v.isNull = true ∨ w.isNull = true) :
    Equates v w (v.isNull && w.isNull)
  | boolLeft {b : Bool} {w : Value} {r : Bool} (present : w.isNull = false)
    (rest : Equates (boolAsNumber (.bool b)) w r) : Equates (.bool b) w r
  | boolRight {v : Value} {b r : Bool} (left : v.IsBare)
    (rest : Equates v (boolAsNumber (.bool b)) r) : Equates v (.bool b) r
  | numbers {m n : Number} : Equates (.number m) (.number n) (m.equals n)
  | texts {s t : String} : Equates (.text s) (.text t) (decide (s = t))
  | numberText {m n : Number} {t : String} (read : Number.ofText t = .ok n) :
    Equates (.number m) (.text t) (m.equals n)
  | textNumber {m n : Number} {s : String} (read : Number.ofText s = .ok m) :
    Equates (.text s) (.number n) (m.equals n)
  | containers {v w : Value} (left : v.isContainer = true) (right : w.isContainer = true) :
    Equates v w (v.sameObject w)
  | container {v w p q : Value} {r : Bool} (left : v.IsBare) (right : w.IsBare)
    (one : v.isContainer ≠ w.isContainer) (first : v.toPrimitive = .ok p)
    (second : w.toPrimitive = .ok q) (rest : Equates p q r) : Equates v w r
  | objects {v w : Value} (left : v.IsBare) (right : w.IsBare) (first : v.isContainer = false)
    (second : w.isContainer = false) (opaqueOne : v.isOpaque = true ∨ w.isOpaque = true) :
    Equates v w (v.sameObject w)

theorem scalarEquals_of_isOpaque (h : v.isOpaque = true ∨ w.isOpaque = true) :
    scalarEquals v w = .ok (v.sameObject w) := by
  rcases h with left | right
  · cases v with
    | null | bool | number | text | list | tuple | mapping => cases left
    | set | date | function => rfl
  · rw [scalarEquals_comm, sameObject_comm]
    cases w with
    | null | bool | number | text | list | tuple | mapping => cases right
    | set | date | function => rfl

/-- What the rules derive is what loose equality finds. -/
theorem looseEquals_of_equates (h : Equates v w r) : v.looseEquals w = .ok r := by
  induction h with
  | null null => exact looseEquals_of_isNull null
  | boolLeft present rest ih =>
    rw [← looseEquals_boolAsNumber] at ih ⊢
    exact ih
  | boolRight left rest ih =>
    rw [← looseEquals_boolAsNumber] at ih ⊢
    exact ih
  | numbers | texts => rfl
  | numberText read =>
    change (do return Number.equals _ (← Number.ofText _)) = _
    rw [read]
    rfl
  | textNumber read =>
    change (do return (← Number.ofText _).equals _) = _
    rw [read]
    rfl
  | containers left right => exact looseEquals_containers left right
  | container left right one first second rest ih =>
    obtain ⟨bareLeft, scalarLeft⟩ := left.toPrimitive first
    obtain ⟨bareRight, scalarRight⟩ := right.toPrimitive second
    rw [looseEquals_container left right one, first, second]
    rw [looseEquals_scalars bareLeft bareRight scalarLeft scalarRight] at ih
    exact ih
  | objects left right first second opaqueOne =>
    rw [looseEquals_scalars left right first second, scalarEquals_of_isOpaque opaqueOne]

theorem equates_of_scalarEquals (left : v.IsBare) (right : w.IsBare)
    (first : v.isContainer = false) (second : w.isContainer = false)
    (h : scalarEquals v w = .ok r) : Equates v w r := by
  by_cases opaqueOne : v.isOpaque = true ∨ w.isOpaque = true
  · rw [scalarEquals_of_isOpaque opaqueOne] at h
    cases h
    exact .objects left right first second opaqueOne
  · simp only [not_or] at opaqueOne
    cases v with
    | null => cases left.1
    | bool => cases left.2
    | list | tuple | mapping => cases first
    | set | date | function => exact absurd rfl opaqueOne.1
    | number m =>
      cases w with
      | null => cases right.1
      | bool => cases right.2
      | list | tuple | mapping => cases second
      | set | date | function => exact absurd rfl opaqueOne.2
      | number n =>
        cases h
        exact .numbers
      | text t =>
        obtain ⟨n, read, same⟩ := Except.bind_eq_ok_iff.mp h
        cases same
        exact .numberText read
    | text s =>
      cases w with
      | null => cases right.1
      | bool => cases right.2
      | list | tuple | mapping => cases second
      | set | date | function => exact absurd rfl opaqueOne.2
      | number n =>
        obtain ⟨m, read, same⟩ := Except.bind_eq_ok_iff.mp h
        cases same
        exact .textNumber read
      | text t =>
        cases h
        exact .texts

theorem equates_of_isBare (left : v.IsBare) (right : w.IsBare) (h : v.looseEquals w = .ok r) :
    Equates v w r := by
  rcases isContainer_cases v w with ⟨first, second⟩ | ⟨first, second⟩ | one
  · rw [looseEquals_containers first second] at h
    cases h
    exact .containers first second
  · rw [looseEquals_scalars left right first second] at h
    exact equates_of_scalarEquals left right first second h
  · rw [looseEquals_container left right one] at h
    obtain ⟨p, first, h⟩ := Except.bind_eq_ok_iff.mp h
    obtain ⟨q, second, h⟩ := Except.bind_eq_ok_iff.mp h
    obtain ⟨bareLeft, scalarLeft⟩ := left.toPrimitive first
    obtain ⟨bareRight, scalarRight⟩ := right.toPrimitive second
    refine .container left right one first second ?_
    exact equates_of_scalarEquals bareLeft bareRight scalarLeft scalarRight h

theorem equates_of_isBare_left (left : v.IsBare) (present : w.isNull = false)
    (h : v.looseEquals w = .ok r) : Equates v w r := by
  rcases isBare_or_bool present with right | ⟨b, rfl⟩
  · exact equates_of_isBare left right h
  · refine .boolRight left (equates_of_isBare left (isBare_number _) ?_)
    rw [← looseEquals_boolAsNumber] at h ⊢
    exact h

/-- **Loose equality finds what its rules derive, and nothing else.** -/
theorem looseEquals_eq_ok_iff : v.looseEquals w = .ok r ↔ Equates v w r := by
  constructor
  · intro h
    by_cases null : v.isNull = true ∨ w.isNull = true
    · rw [looseEquals_of_isNull null] at h
      cases h
      exact .null null
    · simp only [not_or, Bool.not_eq_true] at null
      rcases isBare_or_bool null.1 with left | ⟨b, rfl⟩
      · exact equates_of_isBare_left left null.2 h
      · refine .boolLeft null.2 (equates_of_isBare_left (isBare_number _) null.2 ?_)
        rw [← looseEquals_boolAsNumber] at h ⊢
        exact h
  · exact looseEquals_of_equates

/-! ### Results -/

theorem exists_scalarEquals (left : ∃ x, v.toNumber = .ok x) (right : ∃ x, w.toNumber = .ok x) :
    ∃ r, scalarEquals v w = .ok r := by
  obtain ⟨x, readLeft⟩ := left
  obtain ⟨y, readRight⟩ := right
  cases v with
  | number m =>
    cases w with
    | text t => exact ⟨m.equals y, Except.bind_eq_ok_iff.mpr ⟨y, readRight, rfl⟩⟩
    | _ => exact ⟨_, rfl⟩
  | text s =>
    cases w with
    | number n => exact ⟨x.equals n, Except.bind_eq_ok_iff.mpr ⟨x, readLeft, rfl⟩⟩
    | _ => exact ⟨_, rfl⟩
  | _ => exact ⟨_, rfl⟩

theorem exists_looseEquals_of_isBare (bareLeft : v.IsBare) (bareRight : w.IsBare)
    (left : v.IsConvertible) (right : w.IsConvertible) : ∃ r, v.looseEquals w = .ok r := by
  rcases isContainer_cases v w with ⟨first, second⟩ | ⟨first, second⟩ | one
  · exact ⟨_, looseEquals_containers first second⟩
  · rw [looseEquals_scalars bareLeft bareRight first second]
    apply exists_scalarEquals
    · exact left.exists_toNumber first
    · exact right.exists_toNumber second
  · obtain ⟨p, first, readLeft⟩ := left
    obtain ⟨q, second, readRight⟩ := right
    rw [looseEquals_container bareLeft bareRight one, first, second]
    exact exists_scalarEquals readLeft readRight

/-- **The recursion ends** on values that can be converted. -/
theorem exists_looseEquals (left : v.IsConvertible) (right : w.IsConvertible) :
    ∃ r, v.looseEquals w = .ok r := by
  by_cases null : v.isNull = true ∨ w.isNull = true
  · exact ⟨_, looseEquals_of_isNull null⟩
  · simp only [not_or, Bool.not_eq_true] at null
    rw [← looseEquals_boolAsNumber]
    apply exists_looseEquals_of_isBare
    · exact isBare_boolAsNumber null.1
    · exact isBare_boolAsNumber null.2
    · exact left.boolAsNumber
    · exact right.boolAsNumber

/-! ### Strict and loose equality -/

theorem isBare_of_identity? {i : Identity} (h : v.identity? = some i) : v.IsBare := by
  cases v with
  | null | bool => cases h
  | _ => exact ⟨rfl, rfl⟩

theorem isOpaque_of_identity? {i : Identity} (h : v.identity? = some i)
    (noContainer : v.isContainer = false) : v.isOpaque = true := by
  cases v with
  | null | bool | number | text => cases h
  | list | tuple | mapping => cases noContainer
  | set | date | function => rfl

/-- An object equals itself loosely, unless it is taken for a container and for something else as
    well. -/
theorem looseEquals_of_sameObject (oneKind : v.isContainer = w.isContainer) {i : Identity}
    (left : v.identity? = some i) (right : w.identity? = some i) : v.looseEquals w = .ok true := by
  have object : v.sameObject w = true := (sameObject_of_identity? left).mpr right
  have bareLeft := isBare_of_identity? left
  have bareRight := isBare_of_identity? right
  rcases isContainer_cases v w with ⟨first, second⟩ | ⟨first, second⟩ | one
  · rw [looseEquals_containers first second, object]
  · rw [looseEquals_scalars bareLeft bareRight first second,
      scalarEquals_of_isOpaque (Or.inl (isOpaque_of_identity? left first)), object]
  · exact absurd oneKind one

/-- What is strictly equal is loosely equal. -/
theorem looseEquals_of_strictEquals
    (oneKind : v.sameObject w = true → v.isContainer = w.isContainer)
    (h : v.strictEquals w = true) : v.looseEquals w = .ok true := by
  cases left : v.identity? with
  | some i =>
    have right : w.identity? = some i := (strictEquals_object left).mp h
    have kind := oneKind ((sameObject_of_identity? left).mpr right)
    exact looseEquals_of_sameObject kind left right
  | none =>
    cases v with
    | null =>
      cases strictEquals_null.mp h
      rfl
    | bool b =>
      cases strictEquals_bool.mp h
      cases b <;> rfl
    | number m =>
      obtain ⟨n, rfl, same⟩ := strictEquals_number.mp h
      exact congrArg Except.ok same
    | text s =>
      cases strictEquals_text.mp h
      exact congrArg Except.ok (decide_eq_true rfl)
    | list | tuple | set | mapping | date | function => cases left

end FormEngine.Value
