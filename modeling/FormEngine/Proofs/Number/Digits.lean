/-
  FormEngine/Proofs/Number/Digits.lean
  ====================================
  **Rows of digits and their numbers.**

  The reader takes digits of every script, the writer uses the ten of ASCII.  A
  number is read back from its written digits, zeros in front do not count, and a row
  that is cut in two gives the first part shifted by the length of the second.
-/
import FormEngine.Text.Numeral
import Mathlib.Data.Nat.Digits.Lemmas
import Mathlib.Tactic.Ring

namespace FormEngine.Text

variable {c : Char} {ds : List Char}

theorem isDecimalDigit_of_isDigit (h : c.isDigit = true) : isDecimalDigit c = true := by
  rw [isDecimalDigit, digitValue?_of_isDigit c h]
  rfl

theorem isDigit_of_mem_toDigits {n : Nat} (member : c ∈ Nat.toDigits 10 n) : c.isDigit = true :=
  Nat.isDigit_of_mem_toDigits (by decide) (by decide) member

theorem toList_decimal_int (n : Int) :
    (decimal n).toList = (if n < 0 then ['-'] else []) ++ Nat.toDigits 10 n.natAbs := by
  by_cases negative : n < 0
  · simp [decimal, negative]
  · simp [decimal, negative]

theorem toList_decimal (n : Nat) : (decimal n).toList = Nat.toDigits 10 n := by
  have notNegative : ¬(n : Int) < 0 := by omega
  rw [toList_decimal_int, if_neg notNegative, List.nil_append, Int.natAbs_natCast]

theorem foldl_digitValue (ds : List Char) (n : Nat) :
    ds.foldl (fun n c => 10 * n + digitValue c) n = n * 10 ^ ds.length + decimalValue ds := by
  induction ds generalizing n with
  | nil => simp [decimalValue]
  | cons c ds ih =>
    have first : decimalValue (c :: ds) = digitValue c * 10 ^ ds.length + decimalValue ds := by
      rw [decimalValue, List.foldl_cons, ih, Nat.mul_zero, Nat.zero_add]
    rw [List.foldl_cons, ih, first, List.length_cons, Nat.pow_succ]
    ring

/-- A row of digits that is cut in two. -/
theorem decimalValue_append (ds es : List Char) :
    decimalValue (ds ++ es) = decimalValue ds * 10 ^ es.length + decimalValue es := by
  rw [decimalValue, List.foldl_append, foldl_digitValue, ← decimalValue]

theorem decimalValue_zeros (n : Nat) : decimalValue (List.replicate n '0') = 0 := by
  induction n with
  | zero => rfl
  | succ n ih =>
    rw [List.replicate_succ', decimalValue_append, ih]
    rfl

/-- Zeros in front do not count. -/
theorem decimalValue_zeros_append (n : Nat) (ds : List Char) :
    decimalValue (List.replicate n '0' ++ ds) = decimalValue ds := by
  rw [decimalValue_append, decimalValue_zeros, Nat.zero_mul, Nat.zero_add]

/-- Zeros behind count as powers of ten. -/
theorem decimalValue_append_zeros (ds : List Char) (n : Nat) :
    decimalValue (ds ++ List.replicate n '0') = decimalValue ds * 10 ^ n := by
  rw [decimalValue_append, decimalValue_zeros, List.length_replicate, Nat.add_zero]

theorem decimalValue_of_isDigit (digits : ∀ c ∈ ds, c.isDigit = true) :
    decimalValue ds = Nat.ofDigitChars 10 ds 0 := by
  have values : ∀ n, ds.foldl (fun n c => 10 * n + digitValue c) n =
      Nat.ofDigitChars 10 ds n := by
    induction ds with
    | nil => exact fun n => rfl
    | cons c ds ih =>
      intro n
      have value : digitValue c = c.toNat - 48 := by
        rw [digitValue, digitValue?_of_isDigit c (digits c List.mem_cons_self)]
        rfl
      rw [List.foldl_cons, value]
      exact ih (fun d member => digits d (List.mem_cons_of_mem c member)) _
  exact values 0

theorem decimalValue_toDigits (n : Nat) : decimalValue (Nat.toDigits 10 n) = n := by
  rw [decimalValue_of_isDigit (fun c => isDigit_of_mem_toDigits),
    Nat.ofDigitChars_toDigits (by decide) (by decide)]

/-- An integer within the limit on digits is read back from its digits. -/
theorem readDecimal_toDigits {n : Nat} (short : n < 10 ^ digitLimit) :
    readDecimal (Nat.toDigits 10 n) = .ok n := by
  have length : (Nat.toDigits 10 n).length ≤ digitLimit :=
    (Nat.length_toDigits_le_iff (by decide) (by decide)).mpr short
  rw [readDecimal_of_length_le length, decimalValue_toDigits]

/-- A number is told by its digits from what stands behind them. -/
theorem eq_of_toDigits_append {m n : Nat} {rest other : List Char} (notDigit : c.isDigit = false)
    (same : Nat.toDigits 10 m ++ c :: rest = Nat.toDigits 10 n ++ c :: other) : m = n := by
  have cut : ∀ k rest, (Nat.toDigits 10 k ++ c :: rest).takeWhile Char.isDigit =
      Nat.toDigits 10 k := by
    intro k rest
    rw [List.takeWhile_append_of_pos (fun _ => isDigit_of_mem_toDigits),
      List.takeWhile_cons_of_neg (by simp [notDigit]), List.append_nil]
  rw [← decimalValue_toDigits m, ← cut m rest, same, cut n other, decimalValue_toDigits]

end FormEngine.Text
