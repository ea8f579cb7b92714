/-
  FormEngine/Proofs/Number/NormalForm.lean
  ========================================
  **What the normal form of a number keeps.**

  A number in normal form is normal (`isNormal_normalise`), and normal numbers that are
  equal are the same (`IsNormal.eq_of_equals`).

  A binary64 number and an integer in the safe range are worth the same in normal form;
  an integer beyond that range is rounded, so it is worth the same only if it is a
  binary64 number (`IsExact`).  Equal numbers have equal normal forms
  (`equals_normalise`), but two numbers that differ can meet in one normal form
  (`Merge`), and then one of them is not exact (`not_merge`).
-/
import FormEngine.Proofs.Number.Comparison
import FormEngine.Proofs.Number.Shortest

namespace FormEngine

namespace Binary64

variable {x y : Binary64} {n : Int} {q : ℚ} {num m : Nat} {e : Int} {negative : Bool}

/-! ### Integral values -/

theorem toInt?_eq_some_iff : x.toInt? = some n ↔ x.toRat? = some (n : ℚ) := by
  unfold toInt?
  cases x.toRat? with
  | none => simp
  | some q =>
    by_cases integral : q.den = 1
    · have whole : (q.num : ℚ) = q := Rat.coe_int_num_of_den_eq_one integral
      rw [← whole]
      simp
    · refine iff_of_false (by simp [integral]) ?_
      intro same
      cases same
      exact integral (Rat.den_intCast n)

theorem abs_signedValue (negative : Bool) (m : Nat) (e : Int) :
    |signedValue negative m e| = m * 2 ^ e := by
  have magnitude : (0 : ℚ) ≤ m * 2 ^ e := mul_nonneg (Nat.cast_nonneg m) (zpow_two_pos e).le
  cases negative with
  | true => simp [signedValue, abs_of_nonneg magnitude]
  | false => simp [signedValue, abs_of_nonneg magnitude]

/-- The sign of a number other than zero is that of its value. -/
theorem decide_signedValue_neg (positive : 0 < m) (negative : Bool) (e : Int) :
    decide (signedValue negative m e < 0) = negative := by
  have magnitude : (0 : ℚ) < m * 2 ^ e :=
    mul_pos (by exact_mod_cast positive) (zpow_two_pos e)
  cases negative with
  | true => simpa [signedValue] using magnitude
  | false => simpa [signedValue] using magnitude.le

/-- A number other than zero is what its own magnitude is rounded to. -/
theorem ofRatio_of_toRat? {den : Nat} (ne : q ≠ 0) (denPositive : 0 < den)
    (ratio : |q| = (num : ℚ) / den) (h : x.toRat? = some q) :
    ofRatio (decide (q < 0)) num den = x := by
  cases x with
  | nan => cases h
  | infinite negative => cases h
  | finite negative m e canonical =>
    obtain rfl : signedValue negative m e = q := Option.some.inj h
    rw [abs_signedValue] at ratio
    have magnitude : (m : ℚ) * 2 ^ e ≠ 0 := by
      rw [← abs_signedValue negative]
      exact abs_ne_zero.mpr ne
    have mPositive : 0 < m := by
      rw [Nat.pos_iff_ne_zero]
      rintro rfl
      exact magnitude (by simp)
    have numPositive : 0 < num := by
      rw [Nat.pos_iff_ne_zero]
      rintro rfl
      exact magnitude (by rw [ratio]; simp)
    have rounds := roundsTo_self m e
    rw [ratio] at rounds
    rw [decide_signedValue_neg mPositive]
    exact ofRatio_of_roundsTo canonical numPositive denPositive rounds

theorem abs_eq_num_div_den (q : ℚ) : |q| = (q.num.natAbs : ℚ) / q.den := by
  rw [Rat.abs_def, Rat.divInt_eq_div, Int.cast_natCast, Int.cast_natCast]

/-- Apart from zero, which has two signs, a rational is the value of one number at most. -/
theorem eq_of_toRat? (ne : q ≠ 0) (left : x.toRat? = some q) (right : y.toRat? = some q) :
    x = y := by
  rw [← ofRatio_of_toRat? ne q.den_pos (abs_eq_num_div_den q) left,
    ← ofRatio_of_toRat? ne q.den_pos (abs_eq_num_div_den q) right]

/-- An integer that a binary64 number is worth is rounded to this number. -/
theorem ofInt_of_toRat? (ne : n ≠ 0) (h : x.toRat? = some (n : ℚ)) : ofInt n = x := by
  have ratio : |(n : ℚ)| = ((n.natAbs : Nat) : ℚ) / ((1 : Nat) : ℚ) := by
    rw [Nat.cast_natAbs, Int.cast_abs, Nat.cast_one, div_one]
  have sign : decide ((n : ℚ) < 0) = decide (n < 0) := decide_eq_decide.mpr Int.cast_lt_zero
  rw [ofInt, ← sign]
  exact ofRatio_of_toRat? (Int.cast_ne_zero.mpr ne) Nat.one_pos ratio h

theorem toRat?_ofInt_of_toRat? (h : x.toRat? = some (n : ℚ)) : (ofInt n).toRat? = some (n : ℚ) := by
  by_cases zero : n = 0
  · subst zero
    simp [ofInt, ofRatio, Binary64.zero, toRat?, signedValue]
  · rw [ofInt_of_toRat? zero h, h]

theorem ofInt_ne_nan (n : Int) : ofInt n ≠ nan := by
  have parts : ∀ negative m e, ofParts negative m e ≠ nan := by
    intro negative m e
    unfold ofParts
    split
    · intro same
      cases same
    · intro same
      cases same
  unfold ofInt ofRatio
  split
  · intro same
    cases same
  · dsimp only
    split
    · exact parts _ _ _
    · exact parts _ _ _

/-! ### Integers beyond the safe range -/

/-- A large integer is rounded on a grid of even numbers at least. -/
theorem one_le_gridExponent (large : fullMantissa * 2 ≤ num) :
    1 ≤ gridExponent num 1 ∧ fullMantissa * (scaled num 1 (gridExponent num 1)).2 ≤
      (scaled num 1 (gridExponent num 1)).1 := by
  have positive : 0 < num := lt_of_lt_of_le (by decide) large
  have ratio : (num : ℚ) / ((1 : Nat) : ℚ) = num := by rw [Nat.cast_one, div_one]
  have bound : (2 : ℚ) ^ (53 : Int) ≤ num := by
    have cast : ((fullMantissa * 2 : Nat) : ℚ) ≤ num := by exact_mod_cast large
    rw [Nat.cast_mul, fullMantissa_eq] at cast
    norm_num at cast ⊢
    exact cast
  have numPositive : (0 : ℚ) < num := by exact_mod_cast positive
  have log : 53 ≤ Int.log 2 (num : ℚ) :=
    (Int.zpow_le_iff_le_log (b := 2) (by norm_num) numPositive).mp (by exact_mod_cast bound)
  have grid : gridExponent num 1 = Int.log 2 (num : ℚ) - 52 := by
    rw [gridExponent, floorLog2_eq positive Nat.one_pos, ratio]
    omega
  refine ⟨by omega, ?_⟩
  have denPositive : (0 : ℚ) < (scaled num 1 (gridExponent num 1)).2 := by
    exact_mod_cast scaled_den_pos Nat.one_pos _
  have quotient : (fullMantissa : ℚ) ≤
      (scaled num 1 (gridExponent num 1)).1 / (scaled num 1 (gridExponent num 1)).2 := by
    rw [ratio_scaled, ratio, le_div_iff₀ (zpow_two_pos _), fullMantissa_eq,
      ← zpow_add₀ (by norm_num), grid, add_sub_cancel]
    exact_mod_cast Int.zpow_log_le_self (b := 2) (by norm_num) numPositive
  rw [le_div_iff₀ denPositive] at quotient
  exact_mod_cast quotient

theorem le_nearestEven (num den : Nat) : num / den ≤ nearestEven num den := by
  unfold nearestEven
  dsimp only
  split
  · exact le_rfl
  · exact Nat.le_succ _

/-- Parts with a full mantissa and a positive exponent make no integer of the safe range. -/
theorem beyond_of_toInt?_ofParts (full : fullMantissa ≤ m) (even : 1 ≤ e)
    (h : (ofParts negative m e).toInt? = some n) : fullMantissa * 2 ≤ n.natAbs := by
  rw [toInt?_eq_some_iff] at h
  unfold ofParts at h
  split at h
  · have value : signedValue negative m e = n := Option.some.inj h
    have product : (fullMantissa : ℚ) * 2 ≤ m * 2 ^ e := by
      have mantissa : (fullMantissa : ℚ) ≤ m := by exact_mod_cast full
      have power : (2 : ℚ) ^ (1 : Int) ≤ 2 ^ e := zpow_le_zpow_right₀ (by norm_num) even
      rw [zpow_one] at power
      exact mul_le_mul mantissa power (by norm_num) (Nat.cast_nonneg m)
    rw [← abs_signedValue negative, value, ← Int.cast_abs, ← Nat.cast_natAbs] at product
    exact_mod_cast product
  · cases h

/-- An integer beyond the safe range is not rounded into it. -/
theorem beyond_of_toInt?_ofInt {k : Int} (large : fullMantissa * 2 ≤ k.natAbs)
    (h : (ofInt k).toInt? = some n) : fullMantissa * 2 ≤ n.natAbs := by
  obtain ⟨even, scaledLarge⟩ := one_le_gridExponent large
  have ne : k.natAbs ≠ 0 := by
    intro zero
    rw [zero] at large
    exact absurd large (by decide)
  have denPositive : 0 < (scaled k.natAbs 1 (gridExponent k.natAbs 1)).2 :=
    scaled_den_pos Nat.one_pos _
  have full : fullMantissa ≤ nearestEven (scaled k.natAbs 1 (gridExponent k.natAbs 1)).1
      (scaled k.natAbs 1 (gridExponent k.natAbs 1)).2 :=
    le_trans ((Nat.le_div_iff_mul_le denPositive).mpr scaledLarge) (le_nearestEven _ _)
  rw [ofInt, ofRatio, if_neg ne] at h
  dsimp only at h
  split at h
  · exact beyond_of_toInt?_ofParts le_rfl (by omega) h
  · exact beyond_of_toInt?_ofParts full even h

end Binary64

namespace Number

variable {x y : Number}

theorem extent?_float_eq_at_iff {x : Binary64} {q : ℚ} :
    (float x).extent? = some (.at q) ↔ x.toRat? = some q := by
  cases x with
  | nan => simp [extent?, Binary64.toRat?]
  | infinite negative => cases negative <;> simp [extent?, Binary64.toRat?]
  | finite negative m e canonical => simp [extent?, Binary64.toRat?]

/-! ### Normal numbers -/

/-- A number in normal form is normal. -/
theorem isNormal_normalise (x : Number) : x.normalise.IsNormal := by
  cases x with
  | int n =>
    by_cases safe : n.natAbs ≤ maxSafeInteger
    · exact isNormal_normalise_int_of_le safe
    · rw [normalise, if_neg safe]
      intro k rounded
      have large : fullMantissa * 2 ≤ n.natAbs := Nat.lt_of_not_le safe
      exact Binary64.beyond_of_toInt?_ofInt large rounded
  | float x =>
    rw [normalise]
    split
    · next n integral =>
      split
      · next safe => exact safe
      · next beyond =>
        intro k again
        rw [integral] at again
        cases again
        exact Nat.lt_of_not_le beyond
    · next none =>
      intro k integral
      rw [none] at integral
      cases integral

/-- Normalising again changes nothing. -/
theorem normalise_normalise (x : Number) : x.normalise.normalise = x.normalise :=
  normalise_of_isNormal (isNormal_normalise x)

theorem normalise_eq_self_iff : x.normalise = x ↔ x.IsNormal := by
  constructor
  · intro same
    rw [← same]
    exact isNormal_normalise x
  · exact normalise_of_isNormal

/-- A normal binary64 number is not worth an integer of the safe range. -/
theorem IsNormal.ne_of_safe {x : Binary64} (h : (float x).IsNormal) {n : Int}
    (safe : n.natAbs ≤ maxSafeInteger) : x.toRat? ≠ some (n : ℚ) := by
  intro value
  have beyond := h n (Binary64.toInt?_eq_some_iff.mpr value)
  omega

theorem extent?_eq_infinite_iff (negative : Bool) :
    x.extent? = some (if negative then .below else .above) ↔ x = infinity negative := by
  cases x with
  | int n => cases negative <;> simp [extent?, infinity]
  | float x => cases x <;> cases negative <;> simp [extent?, infinity]

/-- **Normal numbers that are equal are the same.** -/
theorem IsNormal.eq_of_equals (left : x.IsNormal) (right : y.IsNormal)
    (same : x.equals y = true) : x = y := by
  obtain ⟨a, worthLeft, worthRight⟩ := equals_iff.mp same
  cases a with
  | below => rw [(extent?_eq_infinite_iff true).mp worthLeft,
      (extent?_eq_infinite_iff true).mp worthRight]
  | above => rw [(extent?_eq_infinite_iff false).mp worthLeft,
      (extent?_eq_infinite_iff false).mp worthRight]
  | «at» q =>
    cases x with
    | int m =>
      cases worthLeft
      cases y with
      | int n =>
        rw [extent?, Option.some.injEq, Extent.at.injEq, Int.cast_inj] at worthRight
        rw [worthRight]
      | float y => exact absurd (extent?_float_eq_at_iff.mp worthRight) (right.ne_of_safe left)
    | float x =>
      have value := extent?_float_eq_at_iff.mp worthLeft
      cases y with
      | int n =>
        cases worthRight
        exact absurd value (left.ne_of_safe right)
      | float y =>
        have ne : q ≠ 0 := by
          rintro rfl
          exact left.ne_of_safe (n := 0) (Nat.zero_le _) (by exact_mod_cast value)
        rw [Binary64.eq_of_toRat? ne value (extent?_float_eq_at_iff.mp worthRight)]

/-- An integral binary64 number and the integer that it is worth have one normal form. -/
theorem normalise_int_of_toInt? {x : Binary64} {n : Int} (integral : x.toInt? = some n) :
    (int n).normalise = (float x).normalise := by
  rw [normalise, normalise, integral]
  dsimp only
  by_cases safe : n.natAbs ≤ maxSafeInteger
  · rw [if_pos safe, if_pos safe]
  · have ne : n ≠ 0 := by
      rintro rfl
      exact safe (Nat.zero_le _)
    rw [if_neg safe, if_neg safe,
      Binary64.ofInt_of_toRat? ne (Binary64.toInt?_eq_some_iff.mp integral)]

theorem eq_of_normalise_eq_int {n k : Int} (h : (int k).normalise = int n) :
    k = n ∧ n.natAbs ≤ maxSafeInteger := by
  rw [normalise] at h
  split at h
  · next safe =>
    cases h
    exact ⟨rfl, safe⟩
  · cases h

/-! ### What normalising keeps -/

/-- Normalising leaves what the number is worth. -/
def IsExact (x : Number) : Prop := x.normalise.extent? = x.extent?

theorem isExact_of_isNormal (h : x.IsNormal) : x.IsExact := by
  rw [IsExact, normalise_of_isNormal h]

theorem isExact_int_of_le {n : Int} (safe : n.natAbs ≤ maxSafeInteger) : (int n).IsExact :=
  isExact_of_isNormal safe

theorem isExact_float (x : Binary64) : (float x).IsExact := by
  rw [IsExact, normalise]
  split
  · next n integral =>
    split
    · rw [Binary64.toInt?_eq_some_iff] at integral
      exact (extent?_float_eq_at_iff.mpr integral).symm
    · rfl
  · rfl

/-- An integer that equals some binary64 number is exact. -/
theorem isExact_of_equals_float {x : Binary64} (h : y.equals (float x) = true) : y.IsExact := by
  cases y with
  | float y => exact isExact_float y
  | int n =>
    by_cases safe : n.natAbs ≤ maxSafeInteger
    · exact isExact_int_of_le safe
    · obtain ⟨a, worth, same⟩ := equals_iff.mp h
      cases worth
      have rounded := Binary64.toRat?_ofInt_of_toRat? (extent?_float_eq_at_iff.mp same)
      rw [IsExact, normalise, if_neg safe]
      exact extent?_float_eq_at_iff.mpr rounded

theorem normalise_int_ne_nan (n : Int) : (int n).normalise ≠ nan := by
  rw [normalise]
  split
  · intro same
    cases same
  · intro same
    exact Binary64.ofInt_ne_nan n (float.inj same)

/-- Equal numbers have equal normal forms. -/
theorem equals_normalise (h : x.equals y = true) : x.normalise.equals y.normalise = true := by
  have kept : ∀ {x y : Number}, x.IsExact → y.IsExact → x.equals y = true →
      x.normalise.equals y.normalise = true := by
    intro x y exact₁ exact₂ same
    rw [equals_iff] at same ⊢
    rwa [exact₁, exact₂]
  cases y with
  | float y => exact kept (isExact_of_equals_float h) (isExact_float y) h
  | int n =>
    cases x with
    | float x =>
      have turned : (int n).equals (float x) = true := by
        rw [equals_comm]
        exact h
      exact kept (isExact_float x) (isExact_of_equals_float turned) h
    | int m =>
      obtain ⟨_, left, right⟩ := equals_iff.mp h
      rw [← left] at right
      cases right
      exact equals_self_iff.mpr (normalise_int_ne_nan _)

theorem IsExact.equals_left (h : x.IsExact) (y : Number) :
    x.normalise.equals y = x.equals y := by
  unfold equals
  rw [h]

theorem IsExact.equals_right (h : y.IsExact) (x : Number) :
    x.equals y.normalise = x.equals y := by
  unfold equals
  rw [h]

/-! ### Numbers that meet in one normal form -/

/-- Two numbers that differ, but not in normal form. -/
def Merge (x y : Number) : Prop :=
  x.equals y = false ∧ x.normalise.equals y.normalise = true

/-- Normalising tells two numbers apart as before, unless they merge. -/
theorem equals_eq_normalise_iff :
    x.equals y = x.normalise.equals y.normalise ↔ ¬x.Merge y := by
  unfold Merge
  cases same : x.equals y with
  | true => simp [equals_normalise same]
  | false => simp

/-- Exact numbers do not merge. -/
theorem not_merge (left : x.IsExact) (right : y.IsExact) : ¬x.Merge y := by
  rw [← equals_eq_normalise_iff, left.equals_left, right.equals_right]

end Number

end FormEngine
