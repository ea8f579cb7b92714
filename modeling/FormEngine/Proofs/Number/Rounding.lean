/-
  FormEngine/Proofs/Number/Rounding.lean
  ======================================
  **Which rationals round to a binary64 number.**

  `RoundsTo m e q` places the rational `q` between the midpoints around m · 2^e, the
  midpoints included if m is even; below a power of two the midpoint is half as far.
  Every such rational, given as a fraction or as a decimal number, is rounded to the
  number with these parts (`ofRatio_of_roundsTo`, `ofDecimal_of_roundsTo`).  In the
  other direction, what is rounded to a number lies near its mantissa
  (`near_of_ofRatio`).
-/
import FormEngine.Number.Binary64
import Mathlib.Algebra.Order.Field.Power
import Mathlib.Data.Int.Log
import Mathlib.Data.Rat.Floor
import Mathlib.Tactic.FieldSimp
import Mathlib.Tactic.Linarith
import Mathlib.Tactic.NormNum
import Mathlib.Tactic.Positivity
import Mathlib.Tactic.Ring

namespace FormEngine.Binary64

variable {num den m : Nat} {e : Int} {q x : ℚ} {negative : Bool}

/-! ### Powers -/

theorem zpow_two_pos (e : Int) : (0 : ℚ) < 2 ^ e := zpow_pos (by norm_num) e

/-- A power with an integral exponent as a fraction of natural powers. -/
theorem zpow_eq_div {b : Nat} (positive : 0 < b) (e : Int) :
    (b : ℚ) ^ e = ((b ^ e.toNat : Nat) : ℚ) / ((b ^ (-e).toNat : Nat) : ℚ) := by
  have ne : (b : ℚ) ≠ 0 := by exact_mod_cast positive.ne'
  rw [Nat.cast_pow, Nat.cast_pow, ← zpow_natCast, ← zpow_natCast, ← zpow_sub₀ ne]
  congr 1
  omega

/-- Scaling divides the fraction by the power of two. -/
theorem ratio_scaled (num den : Nat) (e : Int) :
    ((scaled num den e).1 : ℚ) / ((scaled num den e).2 : ℚ) = (num : ℚ) / den / 2 ^ e := by
  have power : (2 : ℚ) ^ e = ((2 ^ e.toNat : Nat) : ℚ) / ((2 ^ (-e).toNat : Nat) : ℚ) := by
    exact_mod_cast zpow_eq_div (b := 2) (by norm_num) e
  simp only [scaled, Nat.pow_eq, Nat.cast_mul]
  rw [power, div_div_div_eq]

theorem scaled_den_pos (positive : 0 < den) (e : Int) : 0 < (scaled num den e).2 :=
  Nat.mul_pos positive (Nat.pow_pos (by norm_num))

/-! ### The binary exponent -/

/-- An exponent of two is the logarithm if the number lies between its power and the next. -/
theorem log_eq (lower : (2 : ℚ) ^ e ≤ q) (upper : q < (2 : ℚ) ^ (e + 1)) : Int.log 2 q = e := by
  have positive : 0 < q := (zpow_two_pos e).trans_le lower
  have above :=
    (Int.zpow_le_iff_le_log (b := 2) (by norm_num) positive).mp (by exact_mod_cast lower)
  have below := (Int.lt_zpow_iff_log_lt (b := 2) (by norm_num) positive).mp
    (by exact_mod_cast upper)
  omega

/-- A fraction lies between the powers of two that the lengths of its parts give. -/
theorem ratio_between (numPositive : 0 < num) (denPositive : 0 < den) :
    (2 : ℚ) ^ ((num.log2 : Int) - den.log2 - 1) < (num : ℚ) / den ∧
      (num : ℚ) / den < (2 : ℚ) ^ ((num.log2 : Int) - den.log2 + 1) := by
  have positive : (0 : ℚ) < den := by exact_mod_cast denPositive
  have numLower : (2 : ℚ) ^ (num.log2 : Int) ≤ num := by
    exact_mod_cast Nat.log2_self_le numPositive.ne'
  have numUpper : (num : ℚ) < (2 : ℚ) ^ ((num.log2 : Int) + 1) := by
    exact_mod_cast Nat.lt_log2_self (n := num)
  have denLower : (2 : ℚ) ^ (den.log2 : Int) ≤ den := by
    exact_mod_cast Nat.log2_self_le denPositive.ne'
  have denUpper : (den : ℚ) < (2 : ℚ) ^ ((den.log2 : Int) + 1) := by
    exact_mod_cast Nat.lt_log2_self (n := den)
  constructor
  · rw [lt_div_iff₀ positive]
    calc (2 : ℚ) ^ ((num.log2 : Int) - den.log2 - 1) * den
        < 2 ^ ((num.log2 : Int) - den.log2 - 1) * 2 ^ ((den.log2 : Int) + 1) := by gcongr
      _ = 2 ^ (num.log2 : Int) := by
        rw [← zpow_add₀ (by norm_num)]
        congr 1
        ring
      _ ≤ num := numLower
  · rw [div_lt_iff₀ positive]
    calc (num : ℚ) < 2 ^ ((num.log2 : Int) + 1) := numUpper
      _ = 2 ^ ((num.log2 : Int) - den.log2 + 1) * 2 ^ (den.log2 : Int) := by
        rw [← zpow_add₀ (by norm_num)]
        congr 1
        ring
      _ ≤ 2 ^ ((num.log2 : Int) - den.log2 + 1) * den := by gcongr

theorem floorLog2_eq (numPositive : 0 < num) (denPositive : 0 < den) :
    floorLog2 num den = Int.log 2 ((num : ℚ) / den) := by
  obtain ⟨lower, upper⟩ := ratio_between numPositive denPositive
  unfold floorLog2
  dsimp only
  generalize (num.log2 : Int) - den.log2 = k at lower upper
  have positive : (0 : ℚ) < (scaled num den k).2 := by exact_mod_cast scaled_den_pos denPositive k
  have compared : (scaled num den k).2 ≤ (scaled num den k).1 ↔ (2 : ℚ) ^ k ≤ (num : ℚ) / den := by
    rw [← one_le_div (zpow_two_pos k), ← ratio_scaled, one_le_div positive, Nat.cast_le]
  by_cases reaches : (scaled num den k).2 ≤ (scaled num den k).1
  · rw [if_pos reaches]
    exact (log_eq (compared.mp reaches) upper).symm
  · rw [if_neg reaches]
    have short : (num : ℚ) / den < 2 ^ k := not_le.mp (fun h => reaches (compared.mpr h))
    refine (log_eq lower.le ?_).symm
    rw [sub_add_cancel]
    exact short

/-! ### The nearest integer -/

/-- The rational lies no farther below the integer than the gap and no farther above it than a
    half; it reaches these ends only if the integer is even. -/
def Near (m : Nat) (gap x : ℚ) : Prop :=
  ((m : ℚ) - gap < x ∨ (m : ℚ) - gap = x ∧ m % 2 = 0) ∧
    (x < (m : ℚ) + 1 / 2 ∨ x = (m : ℚ) + 1 / 2 ∧ m % 2 = 0)

theorem Near.le {gap : ℚ} (h : Near m gap x) : (m : ℚ) - gap ≤ x ∧ x ≤ (m : ℚ) + 1 / 2 := by
  obtain ⟨lower | ⟨lower, _⟩, upper | ⟨upper, _⟩⟩ := h
  · exact ⟨lower.le, upper.le⟩
  · exact ⟨lower.le, upper.le⟩
  · exact ⟨lower.le, upper.le⟩
  · exact ⟨lower.le, upper.le⟩

theorem Near.mono {gap gap' : ℚ} (h : Near m gap x) (wider : gap ≤ gap') : Near m gap' x := by
  refine ⟨?_, h.2⟩
  rcases h.1 with lower | ⟨lower, even⟩
  · exact Or.inl (by linarith)
  · rcases wider.lt_or_eq with strict | rfl
    · exact Or.inl (by linarith)
    · exact Or.inr ⟨lower, even⟩

/-- At most one integer lies near a rational, since of two neighbours one is odd. -/
theorem Near.le_of_near {k : Nat} (left : Near m (1 / 2) x) (right : Near k (1 / 2) x) :
    m ≤ k := by
  by_contra above
  have next : (k : ℚ) + 1 ≤ m := by exact_mod_cast Nat.lt_of_not_le above
  rcases left.1 with lower | ⟨lower, evenLeft⟩
  · have upper := right.le.2
    linarith
  · rcases right.2 with upper | ⟨upper, evenRight⟩
    · linarith
    · have same : (m : ℚ) = k + 1 := by linarith
      have neighbour : m = k + 1 := by exact_mod_cast same
      omega

/-- The nearest integer, with ties to the even one, lies near the fraction. -/
theorem near_nearestEven (positive : 0 < den) :
    Near (nearestEven num den) (1 / 2) ((num : ℚ) / den) := by
  have denPositive : (0 : ℚ) < den := by exact_mod_cast positive
  have value : (num : ℚ) / den = (num / den : Nat) + ((num % den : Nat) : ℚ) / den := by
    rw [div_eq_iff denPositive.ne', add_mul, div_mul_cancel₀ _ denPositive.ne', mul_comm]
    exact_mod_cast (Nat.div_add_mod num den).symm
  have small := Nat.mod_lt num positive
  unfold nearestEven
  dsimp only
  rw [value]
  generalize num / den = k
  generalize num % den = r at small
  have nonneg : (0 : ℚ) ≤ (r : ℚ) / den := by positivity
  have less : (r : ℚ) / den < 1 := by
    rw [div_lt_one denPositive]
    exact_mod_cast small
  have below : 2 * r < den ↔ (r : ℚ) / den < 1 / 2 := by
    rw [div_lt_div_iff₀ denPositive two_pos, one_mul, mul_comm]
    exact_mod_cast Iff.rfl
  have half : 2 * r = den ↔ (r : ℚ) / den = 1 / 2 := by
    rw [div_eq_div_iff denPositive.ne' two_ne_zero, one_mul, mul_comm]
    exact_mod_cast Iff.rfl
  split
  · next keeps =>
    rw [below, half] at keeps
    refine ⟨Or.inl (by linarith), ?_⟩
    rcases keeps with before | ⟨tie, even⟩
    · exact Or.inl (by linarith)
    · exact Or.inr ⟨by rw [tie], even⟩
  · next passes =>
    rw [below, half, not_or, not_and, not_lt] at passes
    obtain ⟨reaches, odd⟩ := passes
    rw [Near, Nat.cast_add, Nat.cast_one]
    refine ⟨?_, Or.inl (by linarith)⟩
    rcases reaches.lt_or_eq with after | tie
    · exact Or.inl (by linarith)
    · have even := odd tie.symm
      exact Or.inr ⟨by rw [← tie]; ring, by omega⟩

theorem nearestEven_of_near (positive : 0 < den) (h : Near m (1 / 2) ((num : ℚ) / den)) :
    nearestEven num den = m :=
  Nat.le_antisymm ((near_nearestEven positive).le_of_near h)
    (h.le_of_near (near_nearestEven positive))

/-! ### Rounding -/

/-- How far the numbers that round to m · 2^e reach below it, in units of the last place. -/
def gapBelow (mantissa : Nat) (exponent : Int) : ℚ :=
  if mantissa = fullMantissa ∧ -1074 < exponent then 1 / 4 else 1 / 2

/-- The rational lies between the midpoints around m · 2^e. -/
def RoundsTo (mantissa : Nat) (exponent : Int) (q : ℚ) : Prop :=
  Near mantissa (gapBelow mantissa exponent) (q / 2 ^ exponent)

theorem gapBelow_le (mantissa : Nat) (exponent : Int) : gapBelow mantissa exponent ≤ 1 / 2 := by
  unfold gapBelow
  split
  · norm_num
  · exact le_rfl

theorem gapBelow_pos (mantissa : Nat) (exponent : Int) : 0 < gapBelow mantissa exponent := by
  unfold gapBelow
  split
  · norm_num
  · norm_num

/-- The rational, in units of the last place, lies within a half of the mantissa. -/
theorem RoundsTo.near (h : RoundsTo m e q) : Near m (1 / 2) (q / 2 ^ e) := h.mono (gapBelow_le m e)

theorem fullMantissa_eq : (fullMantissa : ℚ) = 2 ^ (52 : Int) := by norm_num [fullMantissa]

/-- The logarithm of a rational from the power of two that its quotient by another reaches. -/
theorem log_of_quotient {k : Int} (lower : (2 : ℚ) ^ k ≤ q / 2 ^ e)
    (upper : q / 2 ^ e < (2 : ℚ) ^ (k + 1)) : Int.log 2 q = k + e := by
  refine log_eq ?_ ?_
  · rw [zpow_add₀ (by norm_num)]
    exact (le_div_iff₀ (zpow_two_pos e)).mp lower
  · rw [show k + e + 1 = (k + 1) + e by ring, zpow_add₀ (by norm_num)]
    exact (div_lt_iff₀ (zpow_two_pos e)).mp upper

theorem RoundsTo.quotient_lt (canonical : CanonicalBinary m e) (h : RoundsTo m e q) :
    q / 2 ^ e < 2 ^ (53 : Int) := by
  have below : m + 1 ≤ fullMantissa * 2 := canonical.1
  have bound : (m : ℚ) + 1 ≤ fullMantissa * 2 := by exact_mod_cast below
  have upper := h.near.le.2
  rw [fullMantissa_eq] at bound
  norm_num at bound ⊢
  linarith

/-- The rational is rounded on the grid of the number, unless it lies below a power of two. -/
theorem gridExponent_of_roundsTo (canonical : CanonicalBinary m e) (numPositive : 0 < num)
    (denPositive : 0 < den) (h : RoundsTo m e ((num : ℚ) / den))
    (full : (2 : ℚ) ^ (52 : Int) ≤ (num : ℚ) / den / 2 ^ e ∨ e = -1074) :
    gridExponent num den = e := by
  have upper := h.quotient_lt canonical
  rw [gridExponent, floorLog2_eq numPositive denPositive]
  by_cases reaches : (2 : ℚ) ^ (52 : Int) ≤ (num : ℚ) / den / 2 ^ e
  · rw [log_of_quotient reaches upper]
    have lowest := canonical.2.1
    omega
  · obtain rfl : e = -1074 := full.resolve_left reaches
    have positive : (0 : ℚ) < (num : ℚ) / den := by
      have numPositive : (0 : ℚ) < num := by exact_mod_cast numPositive
      have denPositive : (0 : ℚ) < den := by exact_mod_cast denPositive
      positivity
    have small : (num : ℚ) / den < (2 : ℚ) ^ (-1022 : Int) := by
      have short := (div_lt_iff₀ (zpow_two_pos (-1074))).mp (not_le.mp reaches)
      rwa [← zpow_add₀ (by norm_num)] at short
    have log := (Int.lt_zpow_iff_log_lt (b := 2) (by norm_num) positive).mp
      (by exact_mod_cast small)
    omega

/-- A rational that falls short of a power of two by less than the gap is rounded on the finer
    grid below, and up to the power. -/
theorem near_of_short (h : RoundsTo m e q) (canonical : CanonicalBinary m e) (above : -1074 < e)
    (short : q / 2 ^ e < 2 ^ (52 : Int)) :
    m = fullMantissa ∧ Int.log 2 q = 51 + e ∧
      Near (fullMantissa * 2) (1 / 2) (q / 2 ^ (e - 1)) := by
  have full : fullMantissa ≤ m := canonical.2.2.2.resolve_right (by omega)
  have isFull : m = fullMantissa := by
    by_contra other
    have larger : (fullMantissa : ℚ) + 1 ≤ m := by
      exact_mod_cast Nat.lt_of_le_of_ne full (Ne.symm other)
    have lower := h.near.le.1
    rw [fullMantissa_eq] at larger
    linarith
  subst isFull
  have gap : gapBelow fullMantissa e = 1 / 4 := if_pos ⟨rfl, above⟩
  have lower := h.le.1
  rw [gap, fullMantissa_eq] at lower
  have twice : q / 2 ^ (e - 1) = 2 * (q / 2 ^ e) := by
    rw [zpow_sub₀ (by norm_num), zpow_one]
    field_simp
  refine ⟨rfl, log_of_quotient (by norm_num at lower ⊢; linarith) short, ?_, ?_⟩
  · rw [twice]
    push_cast
    rw [fullMantissa_eq]
    rcases lower.lt_or_eq with strict | same
    · exact Or.inl (by linarith)
    · exact Or.inr ⟨by linarith, by decide⟩
  · rw [twice]
    push_cast
    rw [fullMantissa_eq]
    exact Or.inl (by linarith)

theorem ofParts_of_canonical (canonical : CanonicalBinary m e) :
    ofParts negative m e = .finite negative m e canonical := dif_pos canonical

/-- **Rounding a fraction.** -/
theorem ofRatio_of_roundsTo (canonical : CanonicalBinary m e) (numPositive : 0 < num)
    (denPositive : 0 < den) (h : RoundsTo m e ((num : ℚ) / den)) :
    ofRatio negative num den = .finite negative m e canonical := by
  rw [ofRatio, if_neg numPositive.ne']
  dsimp only
  by_cases full : (2 : ℚ) ^ (52 : Int) ≤ (num : ℚ) / den / 2 ^ e ∨ e = -1074
  · have grid := gridExponent_of_roundsTo canonical numPositive denPositive h full
    have near := h.near
    rw [← ratio_scaled] at near
    have rounded := nearestEven_of_near (scaled_den_pos denPositive e) near
    have notNext : m ≠ fullMantissa * 2 := canonical.1.ne
    rw [grid, rounded, if_neg notNext, ofParts_of_canonical canonical]
  · rw [not_or, not_le] at full
    obtain ⟨short, notLowest⟩ := full
    have above : -1074 < e := lt_of_le_of_ne canonical.2.1 (Ne.symm notLowest)
    obtain ⟨rfl, log, near⟩ := near_of_short h canonical above short
    have grid : gridExponent num den = e - 1 := by
      rw [gridExponent, floorLog2_eq numPositive denPositive, log]
      omega
    rw [← ratio_scaled] at near
    have rounded := nearestEven_of_near (scaled_den_pos denPositive (e - 1)) near
    rw [grid, rounded, if_pos rfl, sub_add_cancel, ofParts_of_canonical canonical]

/-- What is rounded to a number lies within a half of its mantissa, unless it is raised to a power
    of two. -/
theorem near_of_ofRatio {s : Bool} {canonical : CanonicalBinary m e} (positive : 0 < den)
    (h : ofRatio negative num den = .finite s m e canonical) (ne : m ≠ fullMantissa) (nonzero : m ≠ 0) :
    Near m (1 / 2) ((num : ℚ) / den / 2 ^ e) := by
  have parts : ∀ {m' : Nat} {e' : Int}, ofParts negative m' e' = .finite s m e canonical →
      m' = m ∧ e' = e := by
    intro m' e' same
    unfold ofParts at same
    split at same
    · cases same
      exact ⟨rfl, rfl⟩
    · cases same
  unfold ofRatio at h
  split at h
  · cases h
    exact absurd rfl nonzero
  dsimp only at h
  split at h
  · exact absurd (parts h).1.symm ne
  · obtain ⟨mantissa, exponent⟩ := parts h
    rw [← mantissa, ← exponent, ← ratio_scaled]
    exact near_nearestEven (scaled_den_pos positive _)

/-! ### Signs -/

theorem isNegative_ofParts : (ofParts negative m e).isNegative = negative := by
  unfold ofParts
  split
  · rfl
  · rfl

/-- Rounding keeps the sign. -/
theorem isNegative_ofRatio : (ofRatio negative num den).isNegative = negative := by
  unfold ofRatio
  split
  · rfl
  · dsimp only
    split
    · exact isNegative_ofParts
    · exact isNegative_ofParts

theorem isNegative_ofDecimal {a : Nat} {p : Int} :
    (ofDecimal negative a p).isNegative = negative := by
  unfold ofDecimal
  split
  · rfl
  · split
    · rfl
    · split
      · rfl
      · exact isNegative_ofRatio

/-! ### Decimal numbers -/

theorem RoundsTo.bounds (canonical : CanonicalBinary m e) (positive : 0 < m) (h : RoundsTo m e q) :
    (2 : ℚ) ^ (-1075 : Int) ≤ q ∧ q < 2 ^ (1024 : Int) := by
  have lowest := canonical.2.1
  have greatest := canonical.2.2.1
  constructor
  · have one : (1 : ℚ) ≤ m := by exact_mod_cast positive
    have lower : (2 : ℚ) ^ (-1 : Int) ≤ q / 2 ^ e := by
      have near := h.near.le.1
      norm_num
      linarith
    calc (2 : ℚ) ^ (-1075 : Int) ≤ 2 ^ (-1 + e) := zpow_le_zpow_right₀ (by norm_num) (by omega)
      _ = 2 ^ (-1 : Int) * 2 ^ e := zpow_add₀ (by norm_num) _ _
      _ ≤ q := (le_div_iff₀ (zpow_two_pos e)).mp lower
  · have upper := (div_lt_iff₀ (zpow_two_pos e)).mp (h.quotient_lt canonical)
    calc q < 2 ^ (53 : Int) * 2 ^ e := upper
      _ = 2 ^ (53 + e) := (zpow_add₀ (by norm_num) _ _).symm
      _ ≤ 2 ^ (1024 : Int) := zpow_le_zpow_right₀ (by norm_num) (by omega)

/-- A natural number is below the power of ten that its length in bits gives. -/
theorem lt_ten_zpow (a : Nat) : (a : ℚ) < 10 ^ ((a.log2 : Int) / 3 + 1) := by
  have bits : a < 2 ^ (a.log2 + 1) := Nat.lt_log2_self
  have octal : 2 ^ (a.log2 + 1) ≤ 10 ^ (a.log2 / 3 + 1) := by
    calc 2 ^ (a.log2 + 1) ≤ 2 ^ (3 * (a.log2 / 3 + 1)) :=
          Nat.pow_le_pow_right (by norm_num) (by omega)
      _ = 8 ^ (a.log2 / 3 + 1) := pow_mul 2 3 _
      _ ≤ 10 ^ (a.log2 / 3 + 1) := Nat.pow_le_pow_left (by norm_num) _
  have natural : (a : ℚ) < 10 ^ (a.log2 / 3 + 1) := by exact_mod_cast bits.trans_le octal
  calc (a : ℚ) < 10 ^ (a.log2 / 3 + 1) := natural
    _ = 10 ^ ((a.log2 : Int) / 3 + 1) := by
      rw [← zpow_natCast]
      congr 1

/-- The fraction that a decimal number is rounded as. -/
theorem ratio_decimal (a : Nat) (p : Int) :
    ((a * Nat.pow 10 p.toNat : Nat) : ℚ) / ((Nat.pow 10 (-p).toNat : Nat) : ℚ) = a * 10 ^ p := by
  have power : (10 : ℚ) ^ p = ((10 ^ p.toNat : Nat) : ℚ) / ((10 ^ (-p).toNat : Nat) : ℚ) := by
    exact_mod_cast zpow_eq_div (b := 10) (by norm_num) p
  simp only [Nat.pow_eq, Nat.cast_mul]
  rw [power, mul_div_assoc]

/-- **Rounding a decimal number.**  The shortcuts for exponents far outside the range do not
    apply to a number that rounds to a finite one other than zero. -/
theorem ofDecimal_of_roundsTo {a : Nat} {p : Int} (canonical : CanonicalBinary m e)
    (positive : 0 < m) (h : RoundsTo m e ((a : ℚ) * 10 ^ p)) :
    ofDecimal negative a p = .finite negative m e canonical := by
  obtain ⟨lower, upper⟩ := h.bounds canonical positive
  have tenPositive : (0 : ℚ) < 10 ^ p := zpow_pos (by norm_num) p
  have notZero : a ≠ 0 := by
    rintro rfl
    rw [Nat.cast_zero, zero_mul] at lower
    exact absurd lower (not_le.mpr (zpow_two_pos _))
  have notHuge : ¬400 < p := by
    intro huge
    have one : (1 : ℚ) ≤ a := by exact_mod_cast Nat.one_le_iff_ne_zero.mpr notZero
    have large : (10 : ℚ) ^ (400 : Int) ≤ 10 ^ p := zpow_le_zpow_right₀ (by norm_num) huge.le
    have powers : 2 ^ 1024 ≤ 10 ^ 400 := by decide +kernel
    have beyond : (2 : ℚ) ^ (1024 : Int) ≤ 10 ^ (400 : Int) := by exact_mod_cast powers
    have product : (10 : ℚ) ^ p ≤ a * 10 ^ p := le_mul_of_one_le_left tenPositive.le one
    exact absurd upper (not_lt.mpr (beyond.trans (large.trans product)))
  have notTiny : ¬(a.log2 : Int) / 3 + 1 + p < -400 := by
    intro tiny
    have small : (a : ℚ) * 10 ^ p < 10 ^ (-400 : Int) := by
      calc (a : ℚ) * 10 ^ p < 10 ^ ((a.log2 : Int) / 3 + 1) * 10 ^ p :=
            mul_lt_mul_of_pos_right (lt_ten_zpow a) tenPositive
        _ = 10 ^ ((a.log2 : Int) / 3 + 1 + p) := (zpow_add₀ (by norm_num) _ _).symm
        _ ≤ 10 ^ (-400 : Int) := zpow_le_zpow_right₀ (by norm_num) tiny.le
    have powers : 2 ^ 1075 ≤ 10 ^ 400 := by decide +kernel
    have below : (10 : ℚ) ^ (-400 : Int) ≤ 2 ^ (-1075 : Int) := by
      rw [zpow_neg, zpow_neg, inv_le_inv₀ (by positivity) (by positivity)]
      exact_mod_cast powers
    exact absurd (small.trans_le below) (not_lt.mpr lower)
  rw [ofDecimal, if_neg notZero, if_neg notHuge, if_neg notTiny]
  refine ofRatio_of_roundsTo canonical ?_ (Nat.pow_pos (by norm_num)) ?_
  · exact Nat.mul_pos (Nat.pos_of_ne_zero notZero) (Nat.pow_pos (by norm_num))
  · rw [ratio_decimal]
    exact h

end FormEngine.Binary64
