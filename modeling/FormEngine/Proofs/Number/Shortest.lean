/-
  FormEngine/Proofs/Number/Shortest.lean
  ======================================
  **The digits chosen for a number round back to it.**

  The search for the fewest digits compares decimal numbers with the ends of the
  interval of the reals that round to the number.  These comparisons are exact
  (`compareDecimal_spec`), so whatever the search returns lies in the interval
  (`roundsTo_shortest`).
-/
import FormEngine.Number.Shortest
import FormEngine.Proofs.Number.Rounding
import Mathlib.Tactic.LinearCombination

namespace FormEngine.Binary64

variable {a m num den : Nat} {e p : Int}

/-- The rational that a decimal number is. -/
def Decimal.value (d : Decimal) : ℚ := d.digits * 10 ^ d.exponent

/-! ### Comparisons -/

/-- A decimal number is compared with a fraction as the rational that it is. -/
theorem compareDecimal_spec (a : Nat) (p : Int) (num : Nat) (positive : 0 < den) :
    (compareDecimal a p num den = .lt ↔ (a : ℚ) * 10 ^ p < (num : ℚ) / den) ∧
      (compareDecimal a p num den = .eq ↔ (a : ℚ) * 10 ^ p = (num : ℚ) / den) ∧
      (compareDecimal a p num den = .gt ↔ (num : ℚ) / den < (a : ℚ) * 10 ^ p) := by
  have denPositive : (0 : ℚ) < den := by exact_mod_cast positive
  have tenPositive : (0 : ℚ) < ((Nat.pow 10 (-p).toNat : Nat) : ℚ) := by
    exact_mod_cast Nat.pow_pos (n := (-p).toNat) (show 0 < 10 by norm_num)
  rw [← ratio_decimal, compareDecimal]
  generalize Nat.pow 10 (-p).toNat = b at tenPositive ⊢
  generalize a * Nat.pow 10 p.toNat = c
  rw [Nat.compare_eq_lt, Nat.compare_eq_eq, Nat.compare_eq_gt]
  rw [div_lt_div_iff₀ tenPositive denPositive, div_lt_div_iff₀ denPositive tenPositive,
    div_eq_div_iff tenPositive.ne' denPositive.ne']
  exact ⟨by exact_mod_cast Iff.rfl, by exact_mod_cast Iff.rfl, by exact_mod_cast Iff.rfl⟩

/-! ### The interval -/

/-- Quarters of the last place, as they are kept in the interval. -/
theorem ratio_quarters (c : Nat) (e : Int) :
    ((c * Nat.pow 2 (e - 2).toNat : Nat) : ℚ) / ((Nat.pow 2 (2 - e).toNat : Nat) : ℚ) =
      c / 4 * 2 ^ e := by
  have power : (2 : ℚ) ^ (e - 2) =
      ((2 ^ (e - 2).toNat : Nat) : ℚ) / ((2 ^ (-(e - 2)).toNat : Nat) : ℚ) := by
    exact_mod_cast zpow_eq_div (b := 2) (by norm_num) (e - 2)
  rw [neg_sub] at power
  simp only [Nat.pow_eq, Nat.cast_mul]
  rw [mul_div_assoc, ← power, zpow_sub₀ (by norm_num)]
  norm_num
  ring

theorem lower_roundingInterval (positive : 0 < m) :
    ((roundingInterval m e).lower : ℚ) / (roundingInterval m e).den =
      (m - gapBelow m e) * 2 ^ e := by
  simp only [roundingInterval]
  rw [ratio_quarters, gapBelow]
  congr 1
  split
  · rw [Nat.cast_sub (by omega)]
    push_cast
    ring
  · rw [Nat.cast_sub (by omega)]
    push_cast
    ring

theorem upper_roundingInterval :
    ((roundingInterval m e).upper : ℚ) / (roundingInterval m e).den = (m + 1 / 2) * 2 ^ e := by
  simp only [roundingInterval]
  rw [ratio_quarters]
  push_cast
  ring

/-- What the interval holds rounds to the number of the interval. -/
theorem roundsTo_of_holds (positive : 0 < m) (h : (roundingInterval m e).holds a p = true) :
    RoundsTo m e ((a : ℚ) * 10 ^ p) := by
  have denPositive : 0 < (roundingInterval m e).den := Nat.pow_pos (by norm_num)
  obtain ⟨_, lowSame, lowAbove⟩ := compareDecimal_spec a p (roundingInterval m e).lower denPositive
  obtain ⟨highBelow, highSame, _⟩ :=
    compareDecimal_spec a p (roundingInterval m e).upper denPositive
  rw [lower_roundingInterval positive] at lowSame lowAbove
  rw [upper_roundingInterval] at highBelow highSame
  have closed : (roundingInterval m e).closed = true ↔ m % 2 = 0 := by simp [roundingInterval]
  simp only [RoundingInterval.holds, Bool.and_eq_true, Bool.or_eq_true, beq_iff_eq] at h
  rw [lowAbove, lowSame, highBelow, highSame, closed] at h
  have unit := zpow_two_pos e
  unfold RoundsTo Near
  rw [lt_div_iff₀ unit, div_lt_iff₀ unit, eq_div_iff unit.ne', div_eq_iff unit.ne']
  constructor
  · rcases h.1 with above | ⟨even, same⟩
    · exact Or.inl above
    · exact Or.inr ⟨same.symm, even⟩
  · rcases h.2 with below | ⟨even, same⟩
    · exact Or.inl below
    · exact Or.inr ⟨same, even⟩

/-- A number rounds to itself. -/
theorem roundsTo_self (m : Nat) (e : Int) : RoundsTo m e (m * 2 ^ e) := by
  have gap := gapBelow_pos m e
  unfold RoundsTo
  rw [mul_div_cancel_right₀ _ (zpow_two_pos e).ne']
  exact ⟨Or.inl (by linarith), Or.inl (by linarith)⟩

/-! ### The search -/

theorem holds_of_nearestOnGrid? {i : RoundingInterval} (h : i.nearestOnGrid? p = some a) :
    i.holds a p = true := by
  unfold RoundingInterval.nearestOnGrid? at h
  dsimp only at h
  split at h
  · cases h
  · next low _ =>
    cases h
    exact low
  · next _ high =>
    cases h
    exact high
  · next low high =>
    split at h
    · cases h
      exact low
    · cases h
      exact high
    · split at h
      · cases h
        exact low
      · cases h
        exact high

/-- Moving zeros into the exponent keeps the number. -/
theorem Decimal.value_stripZeros (fuel : Nat) (d : Decimal) :
    (stripZeros fuel d).value = d.value := by
  induction fuel generalizing d with
  | zero => rfl
  | succ fuel ih =>
    rw [stripZeros]
    by_cases trailing : d.digits % 10 = 0
    · rw [if_pos trailing, ih]
      have split : (d.digits : ℚ) = 10 * (d.digits / 10 : Nat) := by
        exact_mod_cast (Nat.mul_div_cancel' (Nat.dvd_of_mod_eq_zero trailing)).symm
      rw [value, value, split, zpow_add₀ (by norm_num), zpow_one]
      ring
    · rw [if_neg trailing]

/-- The number written out with all its decimals. -/
theorem value_exact (m : Nat) (e : Int) :
    Decimal.value ⟨(roundingInterval m e).value * Nat.pow 5 (2 - e).toNat, -((2 - e).toNat : Int)⟩ =
      m * 2 ^ e := by
  have unit := ratio_quarters (4 * m) e
  have tens : (10 : ℚ) ^ (2 - e).toNat = 2 ^ (2 - e).toNat * 5 ^ (2 - e).toNat := by
    rw [← mul_pow]
    norm_num
  simp only [Decimal.value, roundingInterval, Nat.pow_eq, Nat.cast_mul, Nat.cast_pow, zpow_neg,
    zpow_natCast, tens] at unit ⊢
  field_simp at unit ⊢
  push_cast at unit ⊢
  linear_combination 5 ^ (2 - e).toNat * unit

/-- **The chosen digits round back to the number.** -/
theorem roundsTo_shortest (positive : 0 < m) (e : Int) : RoundsTo m e (shortest m e).value := by
  unfold shortest
  dsimp only
  split
  · next d found =>
    obtain ⟨n, _, onGrid⟩ := List.exists_of_findSome?_eq_some found
    obtain ⟨a, chosen, rfl⟩ := Option.map_eq_some_iff.mp onGrid
    rw [Decimal.value_stripZeros]
    exact roundsTo_of_holds positive (holds_of_nearestOnGrid? chosen)
  · rw [value_exact]
    exact roundsTo_self m e

end FormEngine.Binary64
