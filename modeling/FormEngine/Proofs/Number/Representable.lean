/-
  FormEngine/Proofs/Number/Representable.lean
  ===========================================
  **Rationals that are binary64 numbers, and operations that do not round.**

  A rational of at most 53 significant bits, with the last of them in range, is the
  value of a binary64 number (`isRepresentable_zpow`): every integer up to 2^53 and
  every half of one is.  Rounding keeps such a rational (`toRat?_ofRat`).  So an
  operation whose exact result is representable is exact; the remainder of two
  integers is the case that arithmetic needs (`toRat?_rem`).  From 2^52 on there are
  integers only (`exists_int_of_full`), each with itself as mantissa up to 2^53
  (`exponent_eq_zero`).
-/
import FormEngine.Proofs.Number.NormalForm

namespace FormEngine.Binary64

variable {x y : Binary64} {p q : ℚ} {num den j m : Nat} {e k n : Int} {negative : Bool}

/-- The rational is the value of a finite binary64 number. -/
def IsRepresentable (q : ℚ) : Prop := ∃ x : Binary64, x.toRat? = some q

/-! ### Representable rationals -/

theorem toRat?_neg (h : x.toRat? = some q) : x.neg.toRat? = some (-q) := by
  cases x with
  | nan => cases h
  | infinite negative => cases h
  | finite negative m e canonical =>
    obtain rfl : signedValue negative m e = q := Option.some.inj h
    cases negative with
    | true => simp [neg, toRat?, signedValue]
    | false => simp [neg, toRat?, signedValue]

theorem IsRepresentable.neg (h : IsRepresentable q) : IsRepresentable (-q) := by
  obtain ⟨x, value⟩ := h
  exact ⟨x.neg, toRat?_neg value⟩

/-- A short mantissa is filled up with zeros to full length, or as far as the least exponent
    allows. -/
theorem exists_canonical (positive : 0 < m) (short : m < fullMantissa * 2) (least : -1074 ≤ e)
    (greatest : e ≤ 971) :
    ∃ k : Nat, CanonicalBinary (m * 2 ^ k) (e - k) := by
  have ne : m ≠ 0 := positive.ne'
  have bits : m.log2 < 53 := (Nat.log2_lt ne).mpr short
  have lower := Nat.log2_self_le ne
  have upper := Nat.lt_log2_self (n := m)
  refine ⟨min (52 - m.log2) (e + 1074).toNat, ?_, by omega, by omega, ?_⟩
  · calc m * 2 ^ min (52 - m.log2) (e + 1074).toNat
        < 2 ^ (m.log2 + 1) * 2 ^ min (52 - m.log2) (e + 1074).toNat :=
          Nat.mul_lt_mul_of_pos_right upper (Nat.two_pow_pos _)
      _ = 2 ^ (m.log2 + 1 + min (52 - m.log2) (e + 1074).toNat) := (Nat.pow_add ..).symm
      _ ≤ 2 ^ 53 := Nat.pow_le_pow_right (by decide) (by omega)
  · rcases Nat.le_total (52 - m.log2) (e + 1074).toNat with room | lowest
    · left
      rw [Nat.min_eq_left room]
      calc fullMantissa = 2 ^ (m.log2 + (52 - m.log2)) := by
            rw [Nat.add_sub_of_le (by omega)]
            rfl
        _ = 2 ^ m.log2 * 2 ^ (52 - m.log2) := Nat.pow_add ..
        _ ≤ m * 2 ^ (52 - m.log2) := Nat.mul_le_mul_right _ lower
    · right
      omega

/-- Fifty-three bits with an exponent in range are a binary64 number. -/
theorem isRepresentable_of_lt (short : m < fullMantissa * 2) (least : -1074 ≤ e)
    (greatest : e ≤ 971) : IsRepresentable (m * 2 ^ e) := by
  rcases Nat.eq_zero_or_pos m with rfl | positive
  · exact ⟨zero false, by simp [zero, toRat?, signedValue]⟩
  obtain ⟨k, canonical⟩ := exists_canonical positive short least greatest
  refine ⟨.finite false (m * 2 ^ k) (e - k) canonical, ?_⟩
  have value : ((m * 2 ^ k : Nat) : ℚ) * 2 ^ (e - k) = m * 2 ^ e := by
    rw [zpow_sub₀ (by norm_num), zpow_natCast]
    push_cast
    field_simp
  rw [toRat?, signedValue, value]
  rfl

theorem isRepresentable_zpow (short : n.natAbs < fullMantissa * 2) (least : -1074 ≤ e)
    (greatest : e ≤ 971) : IsRepresentable (n * 2 ^ e) := by
  obtain ⟨k, rfl | rfl⟩ := Int.eq_nat_or_neg n
  · rw [Int.natAbs_natCast] at short
    exact_mod_cast isRepresentable_of_lt short least greatest
  · rw [Int.natAbs_neg, Int.natAbs_natCast] at short
    rw [Int.cast_neg, neg_mul]
    exact_mod_cast (isRepresentable_of_lt short least greatest).neg

theorem isRepresentable_int (short : n.natAbs < fullMantissa * 2) : IsRepresentable n := by
  have scaled := isRepresentable_zpow (e := 0) short (by decide) (by decide)
  rwa [zpow_zero, mul_one] at scaled

theorem isRepresentable_half (short : n.natAbs < fullMantissa * 2) :
    IsRepresentable ((n : ℚ) / 2) := by
  have scaled := isRepresentable_zpow (e := -1) short (by decide) (by decide)
  rwa [zpow_neg_one, ← div_eq_mul_inv] at scaled

/-! ### Rounding keeps them -/

theorem toRat?_zero (negative : Bool) : (zero negative).toRat? = some 0 := by
  cases negative with
  | true => simp [zero, toRat?, signedValue]
  | false => simp [zero, toRat?, signedValue]

/-- Rounding keeps a representable rational. -/
theorem toRat?_ofRat (h : IsRepresentable q) : (ofRat q).toRat? = some q := by
  obtain ⟨x, value⟩ := h
  by_cases isZero : q = 0
  · subst isZero
    exact toRat?_zero false
  · rw [ofRat, ofRatio_of_toRat? isZero q.den_pos (abs_eq_num_div_den q) value, value]

/-- A representable magnitude is kept, whichever sign it is given. -/
theorem toRat?_ofRatio (h : IsRepresentable q) (nonneg : 0 ≤ q) (denPositive : 0 < den)
    (ratio : q = (num : ℚ) / den) (negative : Bool) :
    (ofRatio negative num den).toRat? = some (if negative then -q else q) := by
  rcases nonneg.eq_or_lt with rfl | positive
  · have noNumerator : num = 0 := by
      have denNe : (den : ℚ) ≠ 0 := by exact_mod_cast denPositive.ne'
      exact_mod_cast (div_eq_zero_iff.mp ratio.symm).resolve_right denNe
    subst noNumerator
    rw [ofRatio, if_pos rfl, toRat?_zero, neg_zero, ite_self]
  obtain ⟨x, value⟩ := h
  cases negative with
  | false =>
    have sign : decide (q < 0) = false := decide_eq_false (not_lt.mpr nonneg)
    have kept := ofRatio_of_toRat? positive.ne' denPositive ((abs_of_pos positive).trans ratio) value
    rw [sign] at kept
    rw [kept, value]
    rfl
  | true =>
    have below : -q < 0 := neg_neg_of_pos positive
    have sign : decide (-q < 0) = true := decide_eq_true below
    have magnitude : |-q| = (num : ℚ) / den := by
      rw [abs_neg, abs_of_pos positive, ratio]
    have kept := ofRatio_of_toRat? below.ne denPositive magnitude (toRat?_neg value)
    rw [sign] at kept
    rw [kept, toRat?_neg value]
    rfl

theorem toRat?_ofInt (short : n.natAbs < fullMantissa * 2) :
    (ofInt n).toRat? = some (n : ℚ) := by
  obtain ⟨x, value⟩ := isRepresentable_int short
  exact toRat?_ofInt_of_toRat? value

/-- A finite sum has the value to which the exact sum is rounded. -/
theorem toRat?_add (left : x.toRat? = some p) (right : y.toRat? = some q) :
    (x.add y).toRat? = (ofRat (p + q)).toRat? := by
  cases x with
  | nan => cases left
  | infinite negative => cases left
  | finite s m e _ =>
    cases y with
    | nan => cases right
    | infinite negative => cases right
    | finite t k f _ =>
      obtain rfl : signedValue s m e = p := Option.some.inj left
      obtain rfl : signedValue t k f = q := Option.some.inj right
      rw [add]
      split
      · next zero =>
        rw [zero, toRat?_zero]
        exact (toRat?_zero false).symm
      · rfl

/-! ### Numbers of full length -/

/-- A number from 2^52 on has no binary digits behind the point. -/
theorem exponent_nonneg (canonical : CanonicalBinary m e) (full : (fullMantissa : ℚ) ≤ m * 2 ^ e) :
    0 ≤ e := by
  by_contra fraction
  have short : (m : ℚ) < fullMantissa * 2 := by exact_mod_cast canonical.1
  have power : (2 : ℚ) ^ e ≤ 2 ^ (-1 : Int) := zpow_le_zpow_right₀ one_le_two (by omega)
  have product := mul_le_mul_of_nonneg_left power (Nat.cast_nonneg (α := ℚ) m)
  rw [zpow_neg_one] at product
  linarith

theorem exists_int_of_full (h : x.toRat? = some q) (full : (fullMantissa : ℚ) ≤ |q|) :
    ∃ k : Int, q = k := by
  cases x with
  | nan => cases h
  | infinite negative => cases h
  | finite s m e canonical =>
    obtain rfl : signedValue s m e = q := Option.some.inj h
    rw [abs_signedValue] at full
    obtain ⟨k, rfl⟩ := Int.eq_ofNat_of_zero_le (exponent_nonneg canonical full)
    cases s with
    | true => exact ⟨-(m * 2 ^ k), by simp [signedValue]⟩
    | false => exact ⟨m * 2 ^ k, by simp [signedValue]⟩

/-- An integer of full length is its own mantissa. -/
theorem exponent_eq_zero (canonical : CanonicalBinary m e) (value : (m : ℚ) * 2 ^ e = j)
    (full : fullMantissa ≤ j) (short : j < fullMantissa * 2) : e = 0 ∧ m = j := by
  have low : (fullMantissa : ℚ) ≤ j := by exact_mod_cast full
  have high : (j : ℚ) < fullMantissa * 2 := by exact_mod_cast short
  have nonneg : 0 ≤ e := exponent_nonneg canonical (value ▸ low)
  have mantissa : (fullMantissa : ℚ) ≤ m := by
    exact_mod_cast canonical.2.2.2.resolve_right (by omega)
  have notEven : e < 1 := by
    by_contra even
    have power : (2 : ℚ) ^ (1 : Int) ≤ 2 ^ e := zpow_le_zpow_right₀ one_le_two (by omega)
    rw [zpow_one] at power
    have product := mul_le_mul mantissa power two_pos.le (Nat.cast_nonneg m)
    linarith
  obtain rfl : e = 0 := by omega
  rw [zpow_zero, mul_one] at value
  exact ⟨rfl, by exact_mod_cast value⟩

/-! ### The remainder -/

theorem signedValue_false_of_eq (h : signedValue negative m e = n) :
    signedValue false m e = (n.natAbs : ℚ) := by
  have magnitude := abs_signedValue negative m e
  rw [h] at magnitude
  rw [Nat.cast_natAbs, Int.cast_abs, magnitude]
  rfl

/-- The remainder that truncates, with the sign of the dividend taken out. -/
theorem cast_tmod (h : signedValue negative m e = k) (n : Int) :
    ((k.tmod n : Int) : ℚ) =
      if negative then -((k.natAbs % n.natAbs : Nat) : ℚ) else ((k.natAbs % n.natAbs : Nat) : ℚ) := by
  have naturals : ∀ a : Nat, (a : Int).tmod n = (a % n.natAbs : Nat) := by
    intro a
    obtain ⟨b, rfl | rfl⟩ := Int.eq_nat_or_neg n
    · rw [Int.natAbs_natCast, Int.ofNat_tmod]
    · rw [Int.tmod_neg, Int.natAbs_neg, Int.natAbs_natCast, Int.ofNat_tmod]
  have magnitude := signedValue_false_of_eq h
  cases negative with
  | true =>
    have turned : -(signedValue false m e) = (k : ℚ) := h
    rw [magnitude] at turned
    have split : k = -(k.natAbs : Int) :=
      Int.cast_injective (α := ℚ) (by rw [Int.cast_neg, Int.cast_natCast, turned])
    rw [if_pos rfl]
    conv_lhs => rw [split, Int.neg_tmod, naturals]
    rw [Int.cast_neg, Int.cast_natCast]
  | false =>
    rw [magnitude] at h
    have split : k = (k.natAbs : Int) := Int.cast_injective (α := ℚ) (by rw [Int.cast_natCast, h])
    rw [if_neg Bool.false_ne_true]
    conv_lhs => rw [split, naturals]
    rw [Int.cast_natCast]

/-- The remainder of two naturals, computed on rationals. -/
theorem sub_mul_floor_div (a b : Nat) :
    (a : ℚ) - b * ((((a : ℚ) / b).floor : Int) : ℚ) = ((a % b : Nat) : ℚ) := by
  have quotient : ((a : ℚ) / b).floor = ((a / b : Nat) : Int) := Rat.floor_natCast_div_natCast a b
  have split : (b : ℚ) * ((a / b : Nat) : ℚ) + ((a % b : Nat) : ℚ) = a := by
    exact_mod_cast Nat.div_add_mod a b
  rw [quotient, Int.cast_natCast]
  linarith

/-- **The remainder of two integers is exact**, with the sign of the dividend. -/
theorem toRat?_rem (left : x.toRat? = some (k : ℚ)) (right : y.toRat? = some (n : ℚ)) (ne : n ≠ 0)
    (short : n.natAbs ≤ fullMantissa * 2) : (x.rem y).toRat? = some ((k.tmod n : Int) : ℚ) := by
  cases x with
  | nan => cases left
  | infinite negative => cases left
  | finite s a e _ =>
    cases y with
    | nan => cases right
    | infinite negative => cases right
    | finite t b f _ =>
      have dividend := signedValue_false_of_eq (Option.some.inj left)
      have divisor := signedValue_false_of_eq (Option.some.inj right)
      have positive : 0 < n.natAbs := Int.natAbs_pos.mpr ne
      have nonzero : b ≠ 0 := by
        rintro rfl
        have value : ((n.natAbs : Nat) : ℚ) = 0 := by
          rw [← divisor]
          simp [signedValue]
        exact positive.ne' (by exact_mod_cast value)
      have small := Nat.mod_lt k.natAbs positive
      rw [rem, if_neg nonzero]
      dsimp only
      rw [dividend, divisor, sub_mul_floor_div, Rat.num_natCast, Rat.den_natCast, Int.natAbs_natCast]
      have representable : IsRepresentable ((k.natAbs % n.natAbs : Nat) : ℚ) := by
        have whole := isRepresentable_int (n := ((k.natAbs % n.natAbs : Nat) : Int)) (by omega)
        rwa [Int.cast_natCast] at whole
      rw [toRat?_ofRatio representable (Nat.cast_nonneg _) Nat.one_pos (by simp),
        cast_tmod (Option.some.inj left)]

end FormEngine.Binary64
