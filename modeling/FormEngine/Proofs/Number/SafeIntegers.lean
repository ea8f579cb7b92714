/-
  FormEngine/Proofs/Number/SafeIntegers.lean
  ==========================================
  **Arithmetic on the integers of the safe range.**

  Every integer of the safe range is a binary64 number.  So the remainder, which is
  computed on binary64 numbers, is the exact one there (`mod_int`), and an exact sum,
  difference or product that stays in the range is the result.  Integers are compared
  exactly, of whatever size they are (`compare?_int`, `equals_int`).
-/
import FormEngine.Proofs.Number.Representable

namespace FormEngine

theorem Binary64.truncated_intCast (n : Int) : truncated (n : ℚ) = n := by
  unfold truncated
  split
  · rw [Rat.ceil_intCast]
  · rw [Rat.floor_intCast]

namespace Number

variable {x : Binary64} {a b n : Int}

/-! ### Results that are integers -/

/-- A binary64 number that is worth an integer of the safe range is this integer. -/
theorem normalise_float_of_toRat? (value : x.toRat? = some (n : ℚ))
    (safe : n.natAbs ≤ maxSafeInteger) : (float x).normalise = int n := by
  rw [← normalise_int_of_toInt? (Binary64.toInt?_eq_some_iff.mpr value), normalise_int_of_le safe]

/-- An integer and the binary64 number nearest to it have one normal form. -/
theorem normalise_float_ofInt (n : Int) :
    (float (Binary64.ofInt n)).normalise = (int n).normalise := by
  by_cases safe : n.natAbs ≤ maxSafeInteger
  · rw [normalise_int_of_le safe]
    exact normalise_float_of_toRat? (Binary64.toRat?_ofInt (Nat.lt_succ_of_le safe)) safe
  · -- beyond the safe range this number is the normal form
    have rounded : (int n).normalise = float (Binary64.ofInt n) := if_neg safe
    rw [← rounded]
    exact normalise_normalise (int n)

/-- The integers next to the safe range are still exact. -/
theorem isExact_int_of_le_succ (close : n.natAbs ≤ maxSafeInteger + 1) : (int n).IsExact := by
  rcases Nat.lt_or_eq_of_le close with safe | next
  · exact isExact_int_of_le (Nat.le_of_lt_succ safe)
  · rcases Int.natAbs_eq_iff.mp next with rfl | rfl
    all_goals
      rw [IsExact]
      decide +kernel

theorem neg_int (safe : (-a).natAbs ≤ maxSafeInteger) : (int a).neg = int (-a) :=
  normalise_int_of_le safe

theorem add_int (safe : (a + b).natAbs ≤ maxSafeInteger) : (int a).add (int b) = int (a + b) :=
  normalise_int_of_le safe

theorem sub_int (safe : (a - b).natAbs ≤ maxSafeInteger) : (int a).sub (int b) = int (a - b) :=
  normalise_int_of_le safe

theorem mul_int (safe : (a * b).natAbs ≤ maxSafeInteger) : (int a).mul (int b) = int (a * b) :=
  normalise_int_of_le safe

/-- The remainder goes through binary64 numbers, and loses nothing on the way. -/
theorem mod_int (left : a.natAbs ≤ maxSafeInteger) (right : b.natAbs ≤ maxSafeInteger)
    (ne : b ≠ 0) : (int a).mod (int b) = int (a.tmod b) := by
  have dividend := Binary64.toRat?_ofInt (Nat.lt_succ_of_le left)
  have divisor := Binary64.toRat?_ofInt (Nat.lt_succ_of_le right)
  have remainder := Binary64.toRat?_rem dividend divisor ne (Nat.le_succ_of_le right)
  have small : (a.tmod b).natAbs ≤ maxSafeInteger := by
    rw [Int.natAbs_tmod]
    exact (Nat.mod_le _ _).trans left
  exact normalise_float_of_toRat? remainder small

/-! ### Comparisons -/

theorem equals_int (a b : Int) : (int a).equals (int b) = decide (a = b) := by
  rw [equals, extent?, extent?, decide_eq_decide, Extent.at.injEq, Int.cast_inj]

theorem compare?_int (a b : Int) : (int a).compare? (int b) = some (compare a b) := by
  have before : ∀ a b : Int, (Extent.at a).before (.at b) = decide (a < b) := by
    intro a b
    exact decide_eq_decide.mpr Int.cast_lt
  simp only [compare?, extent?, before, decide_eq_true_eq]
  rcases lt_trichotomy a b with less | rfl | greater
  · rw [if_pos less, compare_lt_iff_lt.mpr less]
  · simp
  · rw [if_neg (lt_asymm greater), if_pos greater, compare_gt_iff_gt.mpr greater]

end Number

end FormEngine
