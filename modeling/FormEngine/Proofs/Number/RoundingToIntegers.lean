/-
  FormEngine/Proofs/Number/RoundingToIntegers.lean
  ================================================
  **Rounding of integers to integers.**

  Rounding down and rounding up leave an integer as it is.  Rounding to the nearest
  integer adds a half in binary64 arithmetic before it rounds down.  The sum is exact
  as long as it has 53 bits.  On an odd integer from 2^52 on it lies halfway between
  the integer and its successor, and the even one of the two is the successor: exactly
  these integers are raised by one (`round_int`).

  They do not come out of rounding to the nearest integer themselves
  (`not_isRaised_of_round`): what is rounded to an odd integer of full length lies less
  than a half away from it, and there, half below it, stands no binary64 number.
-/
import FormEngine.Proofs.Number.SafeIntegers
import Mathlib.Data.Nat.Prime.Basic

namespace FormEngine

namespace Binary64

variable {x : Binary64} {p q : ℚ} {j : Nat} {n : Int}

/-! ### A half added to an integer -/

/-- A half past a mantissa of full length lies at the midpoint below the even neighbour, or above
    it. -/
theorem roundsTo_halfPast (full : fullMantissa ≤ j) : RoundsTo (j + j % 2) 0 (j + 1 / 2) := by
  rw [RoundsTo, zpow_zero, div_one]
  rcases Nat.mod_two_eq_zero_or_one j with even | odd
  · have gap := gapBelow_pos j 0
    rw [even, Nat.add_zero]
    exact ⟨Or.inl (by linarith), Or.inr ⟨rfl, even⟩⟩
  · have gap : gapBelow (j + 1) 0 = 1 / 2 := if_neg (by omega)
    rw [odd, gap, Near, Nat.cast_add, Nat.cast_one]
    exact ⟨Or.inr ⟨by ring, by omega⟩, Or.inl (by linarith)⟩

/-- A half past the greatest mantissa lies at the midpoint below the next power of two. -/
theorem roundsTo_halfPast_last : RoundsTo fullMantissa 1 ((fullMantissa * 2 - 1 : ℚ) + 1 / 2) := by
  have gap : gapBelow fullMantissa 1 = 1 / 4 := if_pos (by decide)
  rw [RoundsTo, zpow_one, gap]
  exact ⟨Or.inr ⟨by ring, by decide⟩, Or.inl (by linarith)⟩

/-- So it is rounded to the even neighbour. -/
theorem toRat?_ofRatio_halfPast (full : fullMantissa ≤ j) (short : j < fullMantissa * 2)
    (negative : Bool) :
    (ofRatio negative (2 * j + 1) 2).toRat? =
      some (if negative then -((j + j % 2 : Nat) : ℚ) else ((j + j % 2 : Nat) : ℚ)) := by
  have past : ((2 * j + 1 : Nat) : ℚ) / ((2 : Nat) : ℚ) = j + 1 / 2 := by
    push_cast
    ring
  by_cases within : j + j % 2 < fullMantissa * 2
  · have canonical : CanonicalBinary (j + j % 2) 0 :=
      ⟨within, by decide, by decide, Or.inl (by omega)⟩
    have rounds := roundsTo_halfPast full
    rw [← past] at rounds
    rw [ofRatio_of_roundsTo canonical (Nat.succ_pos _) Nat.two_pos rounds]
    simp [toRat?, signedValue]
  · have last : (j : ℚ) = fullMantissa * 2 - 1 := by
      rw [eq_sub_iff_add_eq]
      exact_mod_cast (by omega : j + 1 = fullMantissa * 2)
    have next : j + j % 2 = fullMantissa * 2 := by omega
    have canonical : CanonicalBinary fullMantissa 1 := by decide
    have rounds := roundsTo_halfPast_last
    rw [← last, ← past] at rounds
    rw [ofRatio_of_roundsTo canonical (Nat.succ_pos _) Nat.two_pos rounds, next]
    simp [toRat?, signedValue]

/-- An integer of full length and a half are rounded to the even one of the integer and its
    successor. -/
theorem toRat?_ofRat_halfPast (full : fullMantissa * 2 ≤ (2 * n + 1).natAbs)
    (short : n.natAbs < fullMantissa * 2) :
    (ofRat (((2 * n + 1 : Int) : ℚ) / 2)).toRat? = some ((n + n % 2 : Int) : ℚ) := by
  have coprime : Nat.Coprime (2 * n + 1).natAbs (2 : Int).natAbs :=
    Nat.coprime_two_right.mpr (Nat.odd_iff.mpr (by omega))
  have num : (((2 * n + 1 : Int) : ℚ) / 2).num = 2 * n + 1 :=
    Rat.num_div_eq_of_coprime two_pos coprime
  have den : (((2 * n + 1 : Int) : ℚ) / 2).den = 2 := by
    exact_mod_cast Rat.den_div_eq_of_coprime (a := 2 * n + 1) (b := 2) two_pos coprime
  have sign : decide (((2 * n + 1 : Int) : ℚ) / 2 < 0) = decide (n < 0) := by
    rw [decide_eq_decide, ← Rat.num_neg, num]
    omega
  rw [ofRat, num, den, sign]
  rcases Int.lt_or_le n 0 with negative | nonneg
  · obtain ⟨j, magnitude⟩ : ∃ j : Nat, n = -(j + 1 : Int) := ⟨(-n - 1).toNat, by omega⟩
    have numerator : (2 * n + 1).natAbs = 2 * j + 1 := by omega
    have value : -((j + j % 2 : Nat) : Int) = n + n % 2 := by omega
    rw [decide_eq_true negative, numerator,
      toRat?_ofRatio_halfPast (by omega) (by omega), if_pos rfl, ← value]
    push_cast
    rfl
  · obtain ⟨j, rfl⟩ := Int.eq_ofNat_of_zero_le nonneg
    have numerator : (2 * (j : Int) + 1).natAbs = 2 * j + 1 := by omega
    rw [decide_eq_false (by omega), numerator,
      toRat?_ofRatio_halfPast (by omega) (by omega), if_neg Bool.false_ne_true]
    push_cast
    rfl

/-! ### What is rounded to an odd integer -/

/-- What is rounded to an odd integer of full length lies less than a half away from it. -/
theorem abs_sub_lt_of_ofRat_odd (rounded : (ofRat q).toRat? = some (n : ℚ))
    (full : fullMantissa ≤ n.natAbs) (short : n.natAbs < fullMantissa * 2) (odd : n % 2 = 1) :
    |q - n| < 1 / 2 := by
  have sign : (ofRat q).isNegative = decide (q < 0) := isNegative_ofRatio
  cases number : ofRat q with
  | nan =>
    rw [number] at rounded
    cases rounded
  | infinite negative =>
    rw [number] at rounded
    cases rounded
  | finite s m e canonical =>
    rw [number] at rounded sign
    have value : signedValue s m e = n := Option.some.inj rounded
    have magnitude : (m : ℚ) * 2 ^ e = n.natAbs := by
      rw [← abs_signedValue s, value, Nat.cast_natAbs, Int.cast_abs]
    obtain ⟨rfl, rfl⟩ := exponent_eq_zero canonical magnitude full short
    have even : fullMantissa % 2 = 0 := rfl
    have near := near_of_ofRatio q.den_pos number (by omega) (by omega)
    rw [← abs_eq_num_div_den, zpow_zero, div_one] at near
    have below : ((n.natAbs : Nat) : ℚ) - 1 / 2 < |q| :=
      near.1.resolve_right (fun tie => by omega)
    have above : |q| < ((n.natAbs : Nat) : ℚ) + 1 / 2 :=
      near.2.resolve_right (fun tie => by omega)
    rw [signedValue, zpow_zero, mul_one] at value
    rw [abs_lt]
    cases s with
    | true =>
      rw [abs_of_neg (of_decide_eq_true sign.symm)] at below above
      rw [if_pos rfl] at value
      constructor
      · linarith
      · linarith
    | false =>
      rw [abs_of_nonneg (not_lt.mp (of_decide_eq_false sign.symm))] at below above
      rw [if_neg Bool.false_ne_true] at value
      constructor
      · linarith
      · linarith

/-- A half added to a number does not make an odd integer of full length. -/
theorem not_odd_of_floor_ofRat (value : x.toRat? = some q)
    (rounded : (ofRat (q + 1 / 2)).toRat? = some p) (part : ⌊p⌋ = n)
    (full : fullMantissa ≤ n.natAbs) (short : n.natAbs < fullMantissa * 2) : n % 2 ≠ 1 := by
  intro odd
  have even : fullMantissa % 2 = 0 := rfl
  obtain ⟨lower, upper⟩ := Int.floor_eq_iff.mp part
  have beyond : (fullMantissa : ℚ) + 1 ≤ n ∨ (n : ℚ) + 1 ≤ -fullMantissa := by
    rcases Int.lt_or_le n 0 with negative | nonneg
    · exact Or.inr (by exact_mod_cast (by omega : n + 1 ≤ -(fullMantissa : Int)))
    · exact Or.inl (by exact_mod_cast (by omega : (fullMantissa : Int) + 1 ≤ n))
  -- the sum has full length too, so it is the integer itself
  have sumFull : (fullMantissa : ℚ) ≤ |p| := by
    rw [le_abs]
    rcases beyond with positive | negative
    · exact Or.inl (by linarith)
    · exact Or.inr (by linarith)
  obtain ⟨k, whole⟩ := exists_int_of_full rounded sumFull
  obtain rfl : k = n := by rw [← part, whole, Int.floor_intCast]
  rw [whole] at rounded
  obtain ⟨after, before⟩ := abs_lt.mp (abs_sub_lt_of_ofRat_odd rounded full short odd)
  -- the number lies between two integers of full length, where there is none
  have valueFull : (fullMantissa : ℚ) ≤ |q| := by
    rw [le_abs]
    rcases beyond with positive | negative
    · exact Or.inl (by linarith)
    · exact Or.inr (by linarith)
  obtain ⟨l, rfl⟩ := exists_int_of_full value valueFull
  have above : k - 1 < l := by
    have cast : (k : ℚ) - 1 < l := by linarith
    exact_mod_cast cast
  have below : l < k := by
    have cast : (l : ℚ) < k := by linarith
    exact_mod_cast cast
  omega

end Binary64

namespace Number

variable {n : Int}

/-! ### The three roundings of an integer -/

theorem floor_int (safe : n.natAbs ≤ maxSafeInteger) : (int n).floor = int n := by
  change normalise (.int (n : ℚ).floor) = int n
  rw [Rat.floor_intCast, normalise_int_of_le safe]

theorem ceil_int (safe : n.natAbs ≤ maxSafeInteger) : (int n).ceil = int n := by
  change normalise (.int (n : ℚ).ceil) = int n
  rw [Rat.ceil_intCast, normalise_int_of_le safe]

/-- An odd integer of full length: the binary64 number nearest to it and a half is its
    successor. -/
def IsRaised (n : Int) : Prop := fullMantissa ≤ n.natAbs ∧ n % 2 = 1

instance (n : Int) : Decidable (IsRaised n) := inferInstanceAs (Decidable (_ ∧ _))

theorem toRat?_half : (Binary64.ofRat (1 / 2)).toRat? = some (1 / 2) := by decide +kernel

/-- The integer part of the binary64 sum of an integer and a half. -/
theorem toRat?_add_half (safe : n.natAbs ≤ maxSafeInteger) :
    ∃ q : ℚ, ((Binary64.ofInt n).add (Binary64.ofRat (1 / 2))).toRat? = some q ∧
      q.floor = if IsRaised n then n + 1 else n := by
  have integer := Binary64.toRat?_ofInt (Nat.lt_succ_of_le safe)
  have sum : (n : ℚ) + 1 / 2 = ((2 * n + 1 : Int) : ℚ) / 2 := by
    push_cast
    ring
  rw [Binary64.toRat?_add integer toRat?_half, sum]
  by_cases short : (2 * n + 1).natAbs < fullMantissa * 2
  · -- the sum has 53 bits at most, so it is exact
    have notRaised : ¬IsRaised n := by
      rintro ⟨full, odd⟩
      have even : fullMantissa % 2 = 0 := rfl
      omega
    refine ⟨_, Binary64.toRat?_ofRat (Binary64.isRepresentable_half short), ?_⟩
    have part : ⌊(n : ℚ) + 1 / 2⌋ = n := Int.floor_eq_iff.mpr ⟨by linarith, by linarith⟩
    rw [if_neg notRaised, ← sum]
    exact part
  · -- the sum is rounded to the even one of two integers
    have bound : maxSafeInteger < fullMantissa * 2 := by decide
    refine ⟨_, Binary64.toRat?_ofRat_halfPast (by omega) (by omega), ?_⟩
    rw [Rat.floor_intCast]
    by_cases odd : n % 2 = 1
    · rw [if_pos ⟨by omega, odd⟩, odd]
    · rw [if_neg (fun raised => odd raised.2)]
      omega

/-- **Rounding to the nearest integer** leaves the integers that are not raised. -/
theorem round_int (safe : n.natAbs ≤ maxSafeInteger) :
    (int n).round = if IsRaised n then (int (n + 1)).normalise else int n := by
  obtain ⟨q, sum, part⟩ := toRat?_add_half safe
  have worth := extent?_float_eq_at_iff.mpr sum
  have computed : (int n).round = (int q.floor).normalise := by
    unfold round
    rw [extent?, toBinary64]
    dsimp only
    rw [worth]
  rw [computed, part]
  split
  · rfl
  · exact normalise_int_of_le safe

/-! ### Integers that come out of rounding -/

/-- An integer that comes out of rounding to the nearest integer is not raised by the next one. -/
theorem not_isRaised_of_round {x : Number} (normal : x.IsNormal) (h : x.round = int n) :
    ¬IsRaised n := by
  rintro ⟨full, odd⟩
  have even : fullMantissa % 2 = 0 := rfl
  cases x with
  | int k =>
    rw [round_int normal] at h
    split at h
    · next raised =>
      -- the successor of an odd integer is even
      have same := (eq_of_normalise_eq_int h).1
      have oddToo := raised.2
      omega
    · next kept =>
      cases h
      exact kept ⟨full, odd⟩
  | float y =>
    unfold round at h
    split at h
    · next q worth =>
      split at h
      · next p sum =>
        obtain ⟨part, safe⟩ := eq_of_normalise_eq_int h
        have value : y.toRat? = some q := extent?_float_eq_at_iff.mp worth
        have rounded := extent?_float_eq_at_iff.mp sum
        have next : (Binary64.ofRat (q + 1 / 2)).toRat? = some p := by
          rw [← Binary64.toRat?_add value toRat?_half]
          exact rounded
        exact Binary64.not_odd_of_floor_ofRat value next part full (Nat.lt_succ_of_le safe) odd
      · cases h
    · cases h

end Number

end FormEngine
