/-
  FormEngine/Proofs/Number/Comparison.lean
  ========================================
  **Equality and order of numbers.**

  Numbers are compared by what they are worth, wherever on the extended line that
  is.  So the order of two numbers turns with them (`compare?_swap`), equality is
  symmetric and transitive, and NaN, which is worth nothing, is the only number
  that differs from itself (`equals_self_iff`).
-/
import FormEngine.Number.Basic
import Mathlib.Algebra.Order.Ring.Unbundled.Rat

namespace FormEngine

/-! ### The extended line -/

namespace Extent

theorem not_before_self (a : Extent) : a.before a = false := by
  cases a with
  | below => rfl
  | «at» q => simp [before]
  | above => rfl

theorem not_before_of_before {a b : Extent} (h : a.before b = true) : b.before a = false := by
  cases a <;> cases b <;> simp [before] at h ⊢
  apply le_of_lt
  exact h

/-- Of two places on the line that differ one stands before the other. -/
theorem eq_of_not_before {a b : Extent} (notLess : a.before b = false)
    (notGreater : b.before a = false) : a = b := by
  cases a <;> cases b <;> simp [before] at notLess notGreater ⊢
  apply le_antisymm
  · exact notGreater
  · exact notLess

theorem not_before_trans {a b c : Extent} (first : a.before b = false)
    (second : b.before c = false) : a.before c = false := by
  cases a <;> cases b <;> cases c <;> simp [before] at first second ⊢
  exact le_trans second first

end Extent

namespace Number

variable {x y z : Number}

/-! ### Equality -/

theorem equals_iff : x.equals y = true ↔ ∃ a, x.extent? = some a ∧ y.extent? = some a := by
  unfold equals
  cases x.extent? <;> cases y.extent? <;> simp [eq_comm]

theorem equals_comm (x y : Number) : x.equals y = y.equals x := by
  rw [Bool.eq_iff_iff, equals_iff, equals_iff]
  simp only [and_comm]

theorem equals_trans (first : x.equals y = true) (second : y.equals z = true) :
    x.equals z = true := by
  rw [equals_iff] at first second ⊢
  obtain ⟨a, hx, hy⟩ := first
  obtain ⟨b, hy', hz⟩ := second
  rw [hy] at hy'
  cases hy'
  exact ⟨a, hx, hz⟩

theorem extent?_eq_none_iff : x.extent? = none ↔ x = nan := by
  cases x with
  | int n => simp [extent?, nan]
  | float x => cases x <;> simp [extent?, nan]

/-- NaN is the only number that differs from itself. -/
theorem equals_self_iff : x.equals x = true ↔ x ≠ nan := by
  rw [equals_iff, ne_eq, ← extent?_eq_none_iff]
  cases x.extent? <;> simp

/-! ### Order -/

/-- The order of two numbers turns with them. -/
theorem compare?_swap (x y : Number) : y.compare? x = (x.compare? y).map Ordering.swap := by
  unfold compare?
  cases x.extent? with
  | none => cases y.extent? <;> rfl
  | some a =>
    cases y.extent? with
    | none => rfl
    | some b =>
      cases less : a.before b with
      | true => simp [less, Extent.not_before_of_before less]
      | false =>
        cases greater : b.before a with
        | true => simp [less, greater]
        | false => simp [less, greater]

theorem not_less_of_less (h : x.less y = true) : y.less x = false := by
  unfold less at h ⊢
  cases ofX : x.extent? with
  | none => simp [ofX] at h
  | some a =>
    cases ofY : y.extent? with
    | none => rfl
    | some b =>
      rw [ofX, ofY] at h
      exact Extent.not_before_of_before h

/-- Only NaN can stand between two numbers without being compared with them. -/
theorem not_less_trans (counts : y ≠ nan) (first : x.less y = false) (second : y.less z = false) :
    x.less z = false := by
  obtain ⟨b, ofY⟩ := Option.ne_none_iff_exists'.mp (mt extent?_eq_none_iff.mp counts)
  unfold less at first second ⊢
  rw [ofY] at first second
  cases ofX : x.extent? with
  | none => rfl
  | some a =>
    cases ofZ : z.extent? with
    | none => rfl
    | some c =>
      rw [ofX] at first
      rw [ofZ] at second
      exact Extent.not_before_trans first second

theorem equals_of_not_less (left : x ≠ nan) (right : y ≠ nan) (notLess : x.less y = false)
    (notGreater : y.less x = false) : x.equals y = true := by
  obtain ⟨a, ofX⟩ := Option.ne_none_iff_exists'.mp (mt extent?_eq_none_iff.mp left)
  obtain ⟨b, ofY⟩ := Option.ne_none_iff_exists'.mp (mt extent?_eq_none_iff.mp right)
  unfold less at notLess notGreater
  rw [ofX, ofY] at notLess notGreater
  rw [equals_iff]
  exact ⟨a, ofX, (Extent.eq_of_not_before notLess notGreater).symm ▸ ofY⟩

theorem not_less_infinity (x : Number) : x.less (infinity true) = false := by
  unfold less
  cases x.extent? with
  | none => rfl
  | some a => cases a <;> rfl

theorem not_infinity_less (x : Number) : (infinity false).less x = false := by
  unfold less
  cases x.extent? with
  | none => rfl
  | some a => rfl

/-- Two numbers stand at the same place of the order exactly if they are equal. -/
theorem compare?_eq_iff : x.compare? y = some .eq ↔ x.equals y = true := by
  unfold compare? equals
  cases x.extent? with
  | none => simp
  | some a =>
    cases y.extent? with
    | none => simp
    | some b =>
      rw [Option.some_inj, decide_eq_true_eq]
      constructor
      · intro same
        cases less : a.before b with
        | true => simp [less] at same
        | false =>
          cases greater : b.before a with
          | true => simp [less, greater] at same
          | false => exact Extent.eq_of_not_before less greater
      · rintro rfl
        simp [Extent.not_before_self]

theorem decide_compare?_eq (x y : Number) : decide (x.compare? y = some .eq) = x.equals y := by
  rw [Bool.eq_iff_iff, decide_eq_true_eq]
  exact compare?_eq_iff

end Number

end FormEngine
