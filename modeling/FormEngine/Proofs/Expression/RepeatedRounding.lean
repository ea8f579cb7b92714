/-
  FormEngine/Proofs/Expression/RepeatedRounding.lean
  ==================================================
  **The roundings of the library, one after the other.**

  `floor`, `ceil` and `round` return integers where they can.  Rounding such an integer
  again changes nothing, with one exception: `round` raises an odd integer from 2^52 on
  by one, and `floor` and `ceil` let such an integer pass (`apply_roundings`).  `round`
  itself never returns one.
-/
import FormEngine.Proofs.Expression.NormalResults
import FormEngine.Proofs.Number.RoundingToIntegers

namespace FormEngine.Library

open Number (IsRaised)

variable {n : Int} {args : List Value}

/-- The functions that round to an integer. -/
def roundings : List Builtin := [.floor, .ceil, .round]

/-! ### Safe integers -/

theorem numberArgument_int (safe : n.natAbs ≤ Number.maxSafeInteger) :
    numberArgument [.int n] 0 = .ok (.int n) :=
  congrArg Except.ok (Number.normalise_int_of_le safe)

theorem apply_floor_int (safe : n.natAbs ≤ Number.maxSafeInteger) :
    apply .floor [.int n] = .ok (.int n) := by
  rw [apply, numberArgument_int safe]
  exact congrArg (fun x => Except.ok (Value.number x)) (Number.floor_int safe)

theorem apply_ceil_int (safe : n.natAbs ≤ Number.maxSafeInteger) :
    apply .ceil [.int n] = .ok (.int n) := by
  rw [apply, numberArgument_int safe]
  exact congrArg (fun x => Except.ok (Value.number x)) (Number.ceil_int safe)

theorem apply_round_int (safe : n.natAbs ≤ Number.maxSafeInteger) :
    apply .round [.int n] =
      .ok (.number (if IsRaised n then (Number.int (n + 1)).normalise else .int n)) := by
  rw [apply, numberArgument_int safe]
  exact congrArg (fun x => Except.ok (Value.number x)) (Number.round_int safe)

/-- Rounding to the nearest integer leaves exactly the integers that are not raised. -/
theorem apply_round_int_eq_iff (safe : n.natAbs ≤ Number.maxSafeInteger) :
    apply .round [.int n] = .ok (.int n) ↔ ¬IsRaised n := by
  rw [apply_round_int safe]
  split
  · next raised =>
    refine iff_of_false ?_ (not_not_intro raised)
    intro same
    have next : (Number.int (n + 1)).normalise = .int n :=
      Value.number.inj (Except.ok.inj same)
    have successor := (Number.eq_of_normalise_eq_int next).1
    omega
  · next kept => exact iff_of_true rfl kept

theorem not_isRaised_of_apply_round (h : apply .round args = .ok (.int n)) : ¬IsRaised n := by
  obtain ⟨x, converted, h⟩ := Except.bind_eq_ok_iff.mp h
  have rounded : x.round = .int n := Value.number.inj (Except.ok.inj h)
  exact Number.not_isRaised_of_round (isNormal_numberArgument converted) rounded

/-! ### Repeated rounding -/

/-- **Rounding fixes the integers of the safe range**, but for the odd ones from 2^52 on, which
    `round` raises by one.  So rounding an integer that a function has returned, be it a rounding
    itself, changes it exactly if `round` meets one of these, and it never meets one in a result
    of its own. -/
theorem apply_roundings (n : Int) :
    (n.natAbs ≤ Number.maxSafeInteger →
      apply .floor [.int n] = .ok (.int n) ∧
      apply .ceil [.int n] = .ok (.int n) ∧
      (apply .round [.int n] = .ok (.int n) ↔ ¬IsRaised n) ∧
      (IsRaised n → apply .round [.int n] = .ok (.number (Number.int (n + 1)).normalise))) ∧
    ∀ (f : Builtin), ∀ g ∈ roundings, ∀ (args : List Value), apply f args = .ok (.int n) →
      (apply g [.int n] = .ok (.int n) ↔ ¬(g = .round ∧ f ≠ .round ∧ IsRaised n)) := by
  refine ⟨?_, ?_⟩
  · intro safe
    refine ⟨apply_floor_int safe, apply_ceil_int safe, apply_round_int_eq_iff safe, ?_⟩
    intro raised
    rw [apply_round_int safe, if_pos raised]
  · intro f g member args returned
    have safe : n.natAbs ≤ Number.maxSafeInteger := isNormal_apply returned
    simp only [roundings, List.mem_cons, List.not_mem_nil, or_false] at member
    rcases member with rfl | rfl | rfl
    · exact iff_of_true (apply_floor_int safe) (by simp)
    · exact iff_of_true (apply_ceil_int safe) (by simp)
    · rw [apply_round_int_eq_iff safe]
      by_cases again : f = .round
      · subst again
        simp [not_isRaised_of_apply_round returned]
      · simp [again]

/-- The greatest safe integer passes `ceil`, and `round` then makes it the next power of two. -/
theorem apply_roundings_greatest :
    apply .ceil [.int 9007199254740991] = .ok (.int 9007199254740991) ∧
      apply .round [.int 9007199254740991] = .ok (.float (.ofInt 9007199254740992)) ∧
      apply .round [.int 9007199254740991] ≠ .ok (.int 9007199254740991) := by
  obtain ⟨integers, again⟩ := apply_roundings 9007199254740991
  obtain ⟨_, ceil, _, raise⟩ := integers (by decide)
  refine ⟨ceil, raise (by decide), ?_⟩
  intro same
  exact (again .ceil .round (by decide) _ ceil).mp same (by decide)

/-- An odd integer beyond 2^52 is raised by one. -/
theorem apply_round_raises :
    (4503599627370497 : Int).natAbs ≤ Number.maxSafeInteger ∧
      apply .round [.int 4503599627370497] = .ok (.int 4503599627370498) :=
  ⟨by decide, apply_round_int (by decide)⟩

end FormEngine.Library
