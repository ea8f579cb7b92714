/-
  FormEngine/Proofs/Value/Normalising.lean
  ========================================
  **Equality before and after normalising.**

  Arithmetic and the order see numbers in normal form, the equalities see them as
  they were handed in.  This shows on integers that no binary64 number represents:
  two numbers that differ may merge in normal form (`Number.Merge`), and then they
  are equal only afterwards.  Nothing else tells the two views apart
  (`equals_normalised_iff`): it is enough that each number is worth the same in
  normal form.
-/
import FormEngine.Proofs.Number.NormalForm
import FormEngine.Proofs.Value.Equality

namespace FormEngine

/-! ### Numbers read from texts -/

namespace Number

theorem isNormal_infinity (negative : Bool) : (infinity negative).IsNormal := by
  intro n integral
  cases integral

theorem isNormal_nan : nan.IsNormal := by
  intro n integral
  cases integral

theorem isNormal_ofLiteral {negative : Bool} {l : DecimalLiteral} {x : Number}
    (h : ofLiteral negative l = .ok x) : x.IsNormal := by
  unfold ofLiteral at h
  split at h
  · obtain ⟨n, _, same⟩ := Except.bind_eq_ok_iff.mp h
    cases same
    exact isNormal_normalise _
  · cases h
    exact isNormal_normalise _

/-- A text is read as a normal number. -/
theorem isNormal_ofText {s : String} {x : Number} (h : ofText s = .ok x) : x.IsNormal := by
  unfold ofText ofTrimmed at h
  split at h
  · cases h
    exact Nat.zero_le _
  · dsimp only at h
    split at h
    · exact isNormal_ofLiteral h
    · split at h
      · cases h
        exact isNormal_normalise _
      · cases h
        split
        · exact isNormal_infinity _
        · exact isNormal_nan

end Number

namespace Value

variable {v w : Value} {x y : Number}

/-- The value with its number in normal form; what is no number stays. -/
def normalised : Value → Value
  | .number x => .number x.normalise
  | v => v

/-- The number as which a value meets a number under loose equality; none for null, sets, dates
    and functions, which equal no number. -/
def counterpart? : Value → Except NumeralError (Option Number)
  | .bool b => .ok (some (if b then 1 else 0))
  | .number x => .ok (some x)
  | .text s => do return some (← Number.ofText s)
  | v => if v.isContainer then do return some (← Number.ofText (← v.toText)) else .ok none

theorem counterpart?_container (h : v.isContainer = true) :
    v.counterpart? = (do return some (← Number.ofText (← v.toText))) := by
  cases v with
  | list | tuple | mapping => rfl
  | null | bool | number | text | set | date | function => cases h

theorem equals_ofText (x : Number) (s : String) :
    (do return x.equals (← Number.ofText s)) =
      (counterpart? (.text s)).map (Option.any x.equals) := by
  unfold counterpart?
  dsimp only
  cases Number.ofText s with
  | error e => rfl
  | ok y => rfl

/-- A number equals what it meets. -/
theorem looseEquals_number (x : Number) (w : Value) :
    (Value.number x).looseEquals w = w.counterpart?.map (Option.any x.equals) := by
  cases kind : w.isContainer with
  | true =>
    have bare : w.IsBare := by
      cases w with
      | null | bool => cases kind
      | _ => exact ⟨rfl, rfl⟩
    have one : (Value.number x).isContainer ≠ w.isContainer := by
      rw [kind]
      exact Bool.false_ne_true
    rw [looseEquals_container (isBare_number x) bare one, toPrimitive_of_isContainer kind,
      counterpart?_container kind]
    cases w.toText with
    | error e => rfl
    | ok s => exact equals_ofText x s
  | false =>
    cases w with
    | list | tuple | mapping => cases kind
    | null | bool | number | set | date | function => rfl
    | text s => exact equals_ofText x s

/-- What is no number meets one as a normal number. -/
theorem isNormal_of_counterpart? (h : v.counterpart? = .ok (some x)) :
    x.IsNormal ∨ v = .number x := by
  cases kind : v.isContainer with
  | true =>
    rw [counterpart?_container kind] at h
    obtain ⟨s, _, h⟩ := Except.bind_eq_ok_iff.mp h
    obtain ⟨y, read, same⟩ := Except.bind_eq_ok_iff.mp h
    cases same
    exact Or.inl (Number.isNormal_ofText read)
  | false =>
    cases v with
    | list | tuple | mapping => cases kind
    | null | set | date | function => cases h
    | number =>
      cases h
      exact Or.inr rfl
    | bool b =>
      cases h
      refine Or.inl ?_
      cases b with
      | true => exact Nat.one_le_ofNat
      | false => exact Nat.zero_le _
    | text s =>
      obtain ⟨y, read, same⟩ := Except.bind_eq_ok_iff.mp h
      cases same
      exact Or.inl (Number.isNormal_ofText read)

/-- Normalising a value normalises the number as which it meets others. -/
theorem counterpart?_normalised (v : Value) :
    v.normalised.counterpart? = v.counterpart?.map (Option.map Number.normalise) := by
  by_cases number : ∃ x, v = .number x
  · obtain ⟨x, rfl⟩ := number
    rfl
  · have same : v.normalised = v := by
      cases v with
      | number x => exact absurd ⟨x, rfl⟩ number
      | _ => rfl
    rw [same]
    cases found : v.counterpart? with
    | error e => rfl
    | ok o =>
      cases o with
      | none => rfl
      | some x =>
        rcases isNormal_of_counterpart? found with normal | isNumber
        · have kept := Number.normalise_of_isNormal normal
          exact congrArg (fun y => Except.ok (some y)) kept.symm
        · exact absurd ⟨x, isNumber⟩ number

/-! ### Equality -/

/-- The numbers as which two values meet do not merge. -/
def MeetsApart (v w : Value) : Prop :=
  ∀ x y, v.counterpart? = .ok (some x) → w.counterpart? = .ok (some y) → ¬x.Merge y

theorem MeetsApart.symm (h : v.MeetsApart w) : w.MeetsApart v := by
  intro y x right left merge
  refine h x y left right ⟨?_, ?_⟩
  · rw [Number.equals_comm]
    exact merge.1
  · rw [Number.equals_comm]
    exact merge.2

theorem looseEquals_number_normalised_iff (x : Number) (w : Value) :
    (Value.number x).looseEquals w = (Value.number x).normalised.looseEquals w.normalised ↔
      (Value.number x).MeetsApart w := by
  have before := looseEquals_number x w
  have after := looseEquals_number x.normalise w.normalised
  rw [counterpart?_normalised] at after
  change _ = (Value.number x.normalise).looseEquals w.normalised ↔ _
  rw [before, after]
  unfold MeetsApart
  cases w.counterpart? with
  | error e =>
    refine iff_of_true rfl ?_
    intro x' y' _ right
    cases right
  | ok o =>
    cases o with
    | none =>
      refine iff_of_true rfl ?_
      intro x' y' _ right
      cases right
    | some y =>
      have decided : (Except.ok (x.equals y) : Except NumeralError Bool) =
          .ok (x.normalise.equals y.normalise) ↔ ¬x.Merge y := by
        rw [Except.ok.injEq]
        exact Number.equals_eq_normalise_iff
      refine decided.trans ⟨?_, ?_⟩
      · intro apart x' y' left right
        cases left
        cases right
        exact apart
      · intro apart
        exact apart x y rfl rfl

theorem normalised_of_not_number (h : ∀ x, v ≠ .number x) : v.normalised = v := by
  cases v with
  | number x => exact absurd rfl (h x)
  | _ => rfl

/-- Loose equality sees the normal forms unless two numbers that it compares merge. -/
theorem looseEquals_normalised_iff :
    v.looseEquals w = v.normalised.looseEquals w.normalised ↔ v.MeetsApart w := by
  by_cases left : ∃ x, v = .number x
  · obtain ⟨x, rfl⟩ := left
    exact looseEquals_number_normalised_iff x w
  by_cases right : ∃ y, w = .number y
  · obtain ⟨y, rfl⟩ := right
    rw [looseEquals_comm v, looseEquals_comm v.normalised]
    rw [looseEquals_number_normalised_iff y v]
    exact ⟨MeetsApart.symm, MeetsApart.symm⟩
  simp only [not_exists] at left right
  rw [normalised_of_not_number left, normalised_of_not_number right]
  refine iff_of_true rfl ?_
  intro x y first second
  -- neither is a number, so both meet as normal numbers
  have exactLeft : x.IsExact :=
    Number.isExact_of_isNormal ((isNormal_of_counterpart? first).resolve_right (left x))
  have exactRight : y.IsExact :=
    Number.isExact_of_isNormal ((isNormal_of_counterpart? second).resolve_right (right y))
  exact Number.not_merge exactLeft exactRight

/-- Strict equality sees the normal forms unless two numbers merge. -/
theorem strictEquals_normalised_iff :
    v.strictEquals w = v.normalised.strictEquals w.normalised ↔
      ∀ x y, v = .number x → w = .number y → ¬x.Merge y := by
  cases v with
  | number x =>
    cases w with
    | number y =>
      refine Iff.trans (Number.equals_eq_normalise_iff (x := x) (y := y)) ?_
      constructor
      · intro apart x' y' left right
        cases left
        cases right
        exact apart
      · intro apart
        exact apart x y rfl rfl
    | _ =>
      refine iff_of_true rfl ?_
      intro x' y' _ right
      cases right
  | _ =>
    refine iff_of_true ?_ ?_
    · cases w <;> rfl
    · intro x' y' left
      cases left

/-- **Equality before and after normalising.**  Each equality gives the same answer, or the same
    failure, on two values and on the values with their numbers in normal form, except exactly
    where the numbers that it compares differ and have one normal form.  So both do wherever each
    of the two is worth the same in normal form, if it is a number. -/
theorem equals_normalised_iff (v w : Value) :
    (v.strictEquals w = v.normalised.strictEquals w.normalised ↔
      ∀ x y, v = .number x → w = .number y → ¬x.Merge y) ∧
    (v.looseEquals w = v.normalised.looseEquals w.normalised ↔
      ∀ x y, v.counterpart? = .ok (some x) → w.counterpart? = .ok (some y) → ¬x.Merge y) ∧
    ((∀ x, v = .number x ∨ w = .number x → x.IsExact) →
      v.strictEquals w = v.normalised.strictEquals w.normalised ∧
      v.looseEquals w = v.normalised.looseEquals w.normalised) := by
  refine ⟨strictEquals_normalised_iff, looseEquals_normalised_iff, ?_⟩
  intro exact
  have exactOf : ∀ {u : Value} {x : Number}, (u = .number x → x.IsExact) →
      u.counterpart? = .ok (some x) → x.IsExact := by
    intro u x number found
    rcases isNormal_of_counterpart? found with normal | isNumber
    · exact Number.isExact_of_isNormal normal
    · exact number isNumber
  constructor
  · rw [strictEquals_normalised_iff]
    intro x y left right
    exact Number.not_merge (exact x (Or.inl left)) (exact y (Or.inr right))
  · rw [looseEquals_normalised_iff]
    intro x y left right
    refine Number.not_merge (exactOf ?_ left) (exactOf ?_ right)
    · intro isNumber
      exact exact x (Or.inl isNumber)
    · intro isNumber
      exact exact y (Or.inr isNumber)

/-- An integral binary64 number and a text that is read as it. -/
theorem equals_normalised_iff_integral :
    ∃ v : Value, v = .number (.float (.ofRatio false 3 1)) ∧
      v.strictEquals (.text "3") = v.normalised.strictEquals (.text "3") ∧
      v.looseEquals (.text "3") = v.normalised.looseEquals (.text "3") := by
  obtain ⟨_, _, ofExact⟩ :=
    equals_normalised_iff (.number (.float (.ofRatio false 3 1))) (.text "3")
  refine ⟨_, rfl, ofExact ?_⟩
  rintro x (left | right)
  · cases left
    exact Number.isExact_float _
  · cases right

/-- Two integers beyond the safe range that are rounded to one number. -/
theorem equals_ne_normalised_of_long :
    ∃ v w : Value, v = .number (.int 9007199254740992) ∧ w = .number (.int 9007199254740993) ∧
      v.strictEquals w = false ∧ v.normalised.strictEquals w.normalised = true ∧
      v.looseEquals w = .ok false ∧ v.normalised.looseEquals w.normalised = .ok true := by
  refine ⟨_, _, rfl, rfl, by decide +kernel, by decide +kernel, ?_, ?_⟩
  · exact Except.eq_ok_of_toOption_eq_some (by decide +kernel)
  · exact Except.eq_ok_of_toOption_eq_some (by decide +kernel)

end Value

end FormEngine
