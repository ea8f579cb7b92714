/-
  FormEngine/Proofs/Text/Numerals.lean
  ====================================
  **Numerals in the bases up to 36.**

  `numeral` writes a number in a base, with the small letters for the digits from ten on.
  Its digit values are read back as the number (`valueInBase_digitValues`).  Written with
  letters in either case it holds figures and letters of ASCII only (`isPlain_of_written`),
  and lower-casing gives the numeral itself, whatever stands behind it
  (`lowerAfter_append`): none of the rules that look at the context of a character
  concerns ASCII.
-/
import FormEngine.Text.Case
import FormEngine.Text.Numeral
import Mathlib.Data.Nat.Digits.Lemmas
import Mathlib.Tactic.Ring

namespace FormEngine.Text

variable {base n d : Nat} {c : Char} {s before rest : List Char}

/-! ### Digits -/

/-- A figure, or a small letter for ten and more. -/
def digitChar (d : Nat) : Char := Char.ofNat (if d < 10 then 48 + d else 87 + d)

/-- The values of the digits of a number in a base, the most significant first. -/
def digitValues (base n : Nat) : List Nat :=
  if n = 0 then [0] else (Nat.digits base n).reverse

/-- The numeral of a number in a base. -/
def numeral (base n : Nat) : List Char := (digitValues base n).map digitChar

theorem toNat_digitChar (small : d < 36) :
    (digitChar d).toNat = if d < 10 then 48 + d else 87 + d := by
  have all : ∀ d < 36, (digitChar d).toNat = if d < 10 then 48 + d else 87 + d := by decide
  exact all d small

theorem baseDigit?_digitChar (small : d < base) (greatest : base ≤ 36) :
    baseDigit? base (digitChar d) = some d := by
  have value := toNat_digitChar (d := d) (by omega)
  by_cases figure : d < 10
  · rw [if_pos figure] at value
    have upper : 48 + d ≤ 57 := by omega
    simp [baseDigit?, value, upper, small]
  · rw [if_neg figure] at value
    have notFigure : ¬87 + d ≤ 57 := by omega
    have lower : 97 ≤ 87 + d := by omega
    have upper : 87 + d ≤ 122 := by omega
    simp [baseDigit?, value, notFigure, lower, upper, small]

theorem digitValues_ne_nil (base n : Nat) : digitValues base n ≠ [] := by
  unfold digitValues
  split
  · exact List.cons_ne_nil 0 []
  · next ne =>
    intro empty
    exact Nat.digits_ne_nil_iff_ne_zero.mpr ne (List.reverse_eq_nil_iff.mp empty)

theorem lt_of_mem_digitValues (least : 2 ≤ base) (member : d ∈ digitValues base n) : d < base := by
  unfold digitValues at member
  split at member
  · rw [List.mem_singleton.mp member]
    omega
  · exact Nat.digits_lt_base least (List.mem_reverse.mp member)

/-- The digits of a number write this number. -/
theorem valueInBase_digitValues (base n : Nat) : valueInBase base (digitValues base n) = n := by
  unfold digitValues
  split
  · next zero =>
    rw [zero]
    rfl
  · rw [valueInBase, List.foldl_reverse]
    have folded := Nat.ofDigits_eq_foldr base (Nat.digits base n)
    rw [Nat.ofDigits_digits] at folded
    conv_rhs => rw [folded]
    simp only [Nat.cast_id, add_comm]

theorem length_digitValues_le {k : Nat} (least : 2 ≤ base) (some : 0 < k) (short : n < 2 ^ k) :
    (digitValues base n).length ≤ k := by
  unfold digitValues
  split
  · exact some
  · rw [List.length_reverse, Nat.digits_length_le_iff least]
    exact short.trans_le (Nat.pow_le_pow_left least k)

/-! ### Letters in either case -/

/-- A figure or a letter of ASCII. -/
def IsPlain (c : Char) : Prop :=
  (48 ≤ c.toNat ∧ c.toNat ≤ 57) ∨ (65 ≤ c.toNat ∧ c.toNat ≤ 90) ∨ (97 ≤ c.toNat ∧ c.toNat ≤ 122)

instance (c : Char) : Decidable (IsPlain c) := inferInstanceAs (Decidable (_ ∨ _ ∨ _))

theorem toNat_toLower (c : Char) :
    c.toLower.toNat = if 65 ≤ c.toNat ∧ c.toNat ≤ 90 then c.toNat + 32 else c.toNat := by
  have bounds : (c.val ≥ 'A'.val ∧ c.val ≤ 'Z'.val) ↔ 65 ≤ c.toNat ∧ c.toNat ≤ 90 := by
    simp only [ge_iff_le, UInt32.le_iff_toNat_le]
    exact Iff.rfl
  unfold Char.toLower
  by_cases capital : 65 ≤ c.toNat ∧ c.toNat ≤ 90
  · have within : c.val.toNat + 32 < 2 ^ 32 := by
      have upper : c.val.toNat ≤ 90 := capital.2
      omega
    rw [dif_pos (bounds.mpr capital), if_pos capital]
    change (c.val + 32).toNat = c.val.toNat + 32
    rw [UInt32.toNat_add]
    exact Nat.mod_eq_of_lt within
  · rw [dif_neg (fun h => capital (bounds.mp h)), if_neg capital]

theorem isPlain_of_toLower (small : d < 36) (written : c.toLower = digitChar d) : IsPlain c := by
  have value := toNat_digitChar small
  rw [← written, toNat_toLower] at value
  unfold IsPlain
  split at value
  · omega
  · split at value
    · omega
    · omega

/-- A numeral with letters in either case holds figures and letters only. -/
theorem isPlain_of_written (least : 2 ≤ base) (greatest : base ≤ 36)
    (written : s.map Char.toLower = numeral base n) : ∀ c ∈ s, IsPlain c := by
  intro c member
  have inside : c.toLower ∈ numeral base n := by
    rw [← written]
    exact List.mem_map_of_mem member
  obtain ⟨d, digit, same⟩ := List.mem_map.mp inside
  have small := lt_of_mem_digitValues least digit
  exact isPlain_of_toLower (by omega) same.symm

/-- The only run of the table that concerns ASCII is that of the capitals. -/
theorem find?_lowerRuns (ascii : n < 128) :
    lowerRuns.find? (fun r => r.holds n) =
      if 65 ≤ n ∧ n ≤ 90 then some ⟨0x41, 0x5A, 1, 32⟩ else none := by
  have runs : lowerRuns = ⟨0x41, 0x5A, 1, 32⟩ :: lowerRuns.tail := rfl
  have later : lowerRuns.tail.all (fun r => decide (128 ≤ r.first)) = true := by decide +kernel
  have others : lowerRuns.tail.find? (fun r => r.holds n) = none := by
    apply List.find?_eq_none.mpr
    intro r member
    have beyond := List.all_eq_true.mp later r member
    rw [decide_eq_true_eq] at beyond
    have outside : ¬r.first ≤ n := by omega
    simp [CaseRun.holds, outside]
  rw [runs, List.find?_cons, others]
  by_cases capital : 65 ≤ n ∧ n ≤ 90
  · have inside : CaseRun.holds ⟨0x41, 0x5A, 1, 32⟩ n = true := by
      simp [CaseRun.holds, capital, Nat.mod_one]
    rw [inside, if_pos capital]
  · have outside : CaseRun.holds ⟨0x41, 0x5A, 1, 32⟩ n = false := by
      simp [CaseRun.holds]
      omega
    rw [outside, if_neg capital]

/-- In ASCII only the capitals are changed, each to its small letter. -/
theorem mapCase_lower (ascii : c.toNat < 128) :
    mapCase lowerRuns lowerExpansions c = [c.toLower] := by
  have single : lowerExpansions.find? (fun e => e.1 == c.toNat) = none := by
    have other : ¬(304 = c.toNat) := by omega
    simp [lowerExpansions, other]
  have value := toNat_toLower c
  rw [mapCase, single, find?_lowerRuns ascii]
  by_cases capital : 65 ≤ c.toNat ∧ c.toNat ≤ 90
  · rw [if_pos capital] at value ⊢
    have shifted : ((c.toNat : Int) + 32).toNat = c.toLower.toNat := by omega
    simp [shiftedChar, shifted]
  · rw [if_neg capital] at value ⊢
    rw [Char.toNat_inj.mp value]

theorem lowerAfter_append (ascii : ∀ c ∈ s, c.toNat < 128) :
    lowerAfter before (s ++ rest) = s.map Char.toLower ++ lowerAfter (s.reverse ++ before) rest := by
  induction s generalizing before with
  | nil => rfl
  | cons c s ih =>
    have first := ascii c List.mem_cons_self
    have notSigma : (c.toNat == 0x3A3) = false := by
      simp only [beq_eq_false_iff_ne]
      omega
    rw [List.cons_append, lowerAfter, notSigma, mapCase_lower first,
      ih (fun d member => ascii d (List.mem_cons_of_mem c member))]
    simp

end FormEngine.Text
