/-
  FormEngine/Proofs/Number/Layout.lean
  ====================================
  **The text of a number is a literal of the number.**

  However the digits are laid out, with the point inside, zeros on either side or an
  exponent behind, the text is a decimal literal with a point or an exponent, worth
  what the digits are worth.  Since the digits round back to the number that they
  were chosen for, reading the literal gives the number again
  (`Binary64.exists_literal_of_text`).
-/
import FormEngine.Proofs.Number.Digits
import FormEngine.Proofs.Number.Scanning
import FormEngine.Proofs.Number.Shortest

namespace FormEngine

open Text

/-! ### Literals as rationals -/

namespace DecimalLiteral

/-- The rational that a literal is. -/
def value (l : DecimalLiteral) : ℚ :=
  decimalValue (l.whole ++ l.fraction.getD []) *
    10 ^ (l.writtenExponent - (l.fraction.getD []).length)

/-- The row of digits, zeros behind aside, and the place of the last digit determine the value. -/
theorem value_eq {l : DecimalLiteral} {d : Binary64.Decimal} (zeros : Nat)
    (row : decimalValue (l.whole ++ l.fraction.getD []) = d.digits * 10 ^ zeros)
    (place : l.writtenExponent - (l.fraction.getD []).length + zeros = d.exponent) :
    l.value = d.value := by
  rw [value, Binary64.Decimal.value, row, ← place, zpow_add₀ (by norm_num), zpow_natCast]
  push_cast
  ring

theorem toBinary64_of_roundsTo {l : DecimalLiteral} {negative : Bool} {m : Nat} {e : Int}
    (canonical : CanonicalBinary m e) (positive : 0 < m) (h : Binary64.RoundsTo m e l.value) :
    l.toBinary64 negative = .finite negative m e canonical :=
  Binary64.ofDecimal_of_roundsTo canonical positive h

/-- The literal begins with an ASCII digit and has a point or an exponent. -/
structure IsFloating (l : DecimalLiteral) : Prop where
  written : l.IsWritten
  notInteger : l.isInteger = false
  begins : ∃ c s, l.whole = c :: s ∧ c.isDigit = true

/-- Digits with a point in them. -/
theorem isFloating_of_digits {whole fraction : List Char} (digits : ∀ c ∈ whole, c.isDigit = true)
    (ne : whole ≠ []) (decimals : ∀ c ∈ fraction, c.isDigit = true) :
    IsFloating ⟨whole, some fraction, none⟩ := by
  refine ⟨⟨fun c member => isDecimalDigit_of_isDigit (digits c member), ?_, ?_, ?_⟩, rfl, ?_⟩
  · intro ds same c member
    cases same
    exact isDecimalDigit_of_isDigit (decimals c member)
  · intro empty
    exact absurd empty ne
  · intro e same
    cases same
  · cases whole with
    | nil => exact absurd rfl ne
    | cons c s => exact ⟨c, s, rfl, digits c List.mem_cons_self⟩

end DecimalLiteral

namespace Binary64

open DecimalLiteral

/-! ### Exponents -/

/-- The exponent that is written for a power of ten. -/
def literalExponent (x : Int) : LiteralExponent where
  letter := 'e'
  sign := [if x < 0 then '-' else '+']
  digits :=
    let digits := Nat.toDigits 10 x.natAbs
    if digits.length < 2 then '0' :: digits else digits

theorem chars_literalExponent (x : Int) : (literalExponent x).chars = exponentPart x := by
  simp [literalExponent, LiteralExponent.chars, exponentPart]

theorem isWritten_literalExponent (x : Int) : (literalExponent x).IsWritten := by
  have digits : ∀ c ∈ Nat.toDigits 10 x.natAbs, isDecimalDigit c = true :=
    fun c member => isDecimalDigit_of_isDigit (isDigit_of_mem_toDigits member)
  refine ⟨Or.inl rfl, ?_, ?_, ?_⟩
  · dsimp only [literalExponent]
    split
    · exact Or.inr (Or.inr rfl)
    · exact Or.inr (Or.inl rfl)
  · dsimp only [literalExponent]
    split
    · exact List.forall_mem_cons.mpr ⟨by decide, digits⟩
    · exact digits
  · dsimp only [literalExponent]
    split
    · exact List.cons_ne_nil _ _
    · exact Nat.toDigits_ne_nil

theorem writtenExponent_literalExponent (whole : List Char) (fraction : Option (List Char))
    (x : Int) : writtenExponent ⟨whole, fraction, some (literalExponent x)⟩ = x := by
  have digits : decimalValue (literalExponent x).digits = x.natAbs := by
    dsimp only [literalExponent]
    split
    · exact (decimalValue_zeros_append 1 _).trans (decimalValue_toDigits _)
    · exact decimalValue_toDigits _
  have sign : (literalExponent x).sign = ['-'] ↔ x < 0 := by
    dsimp only [literalExponent]
    split
    · next negative => exact iff_of_true rfl negative
    · next positive => exact iff_of_false (by decide) positive
  simp only [writtenExponent, digits]
  by_cases negative : x < 0
  · rw [if_pos (sign.mpr negative)]
    omega
  · rw [if_neg (fun h => negative (sign.mp h))]
    omega

/-! ### Layouts -/

/-- The characters are a literal worth the decimal number. -/
def LaysOut (d : Decimal) (s : List Char) : Prop :=
  ∃ l : DecimalLiteral, l.IsFloating ∧ l.chars = s ∧ l.value = d.value

section Layouts

variable {d : Decimal}

theorem isDigit_of_mem_zeros {n : Nat} {c : Char} (member : c ∈ List.replicate n '0') :
    c.isDigit = true := by
  rw [List.eq_of_mem_replicate member]
  decide

/-- An integer, with a point and a zero behind it. -/
theorem laysOut_integer (integral : 0 ≤ d.exponent) :
    LaysOut d (Nat.toDigits 10 d.digits ++ List.replicate d.exponent.toNat '0' ++ ['.', '0']) := by
  refine ⟨⟨Nat.toDigits 10 d.digits ++ List.replicate d.exponent.toNat '0', some ['0'], none⟩,
    isFloating_of_digits ?_ ?_ ?_, ?_, ?_⟩
  · intro c member
    rcases List.mem_append.mp member with digit | zero
    · exact isDigit_of_mem_toDigits digit
    · exact isDigit_of_mem_zeros zero
  · intro empty
    exact Nat.toDigits_ne_nil (List.append_eq_nil_iff.mp empty).1
  · exact List.forall_mem_singleton.mpr (by decide)
  · simp [chars]
  · refine value_eq (d.exponent.toNat + 1) ?_ ?_
    · dsimp only [Option.getD_some]
      rw [List.append_assoc, ← List.replicate_succ', decimalValue_append_zeros,
        decimalValue_toDigits]
    · simp only [writtenExponent, Option.getD_some, List.length_singleton]
      omega

/-- Digits with the point inside. -/
theorem laysOut_split {place : Nat} (inside : 0 < place)
    (shift : (place : Int) - (Nat.toDigits 10 d.digits).length = d.exponent)
    (within : place ≤ (Nat.toDigits 10 d.digits).length) :
    LaysOut d ((Nat.toDigits 10 d.digits).take place ++
      '.' :: (Nat.toDigits 10 d.digits).drop place) := by
  refine ⟨⟨(Nat.toDigits 10 d.digits).take place, some ((Nat.toDigits 10 d.digits).drop place),
    none⟩, isFloating_of_digits ?_ ?_ ?_, ?_, ?_⟩
  · intro c member
    exact isDigit_of_mem_toDigits (List.mem_of_mem_take member)
  · intro empty
    rcases List.take_eq_nil_iff.mp empty with none | none
    · omega
    · exact Nat.toDigits_ne_nil none
  · intro c member
    exact isDigit_of_mem_toDigits (List.mem_of_mem_drop member)
  · simp [chars]
  · refine value_eq 0 ?_ ?_
    · dsimp only [Option.getD_some]
      rw [List.take_append_drop, decimalValue_toDigits, pow_zero, mul_one]
    · simp only [writtenExponent, Option.getD_some, List.length_drop]
      omega

/-- A zero, the point, and zeros in front of the digits. -/
theorem laysOut_fraction {zeros : Nat}
    (shift : -((zeros : Int) + (Nat.toDigits 10 d.digits).length) = d.exponent) :
    LaysOut d ('0' :: '.' :: List.replicate zeros '0' ++ Nat.toDigits 10 d.digits) := by
  refine ⟨⟨['0'], some (List.replicate zeros '0' ++ Nat.toDigits 10 d.digits), none⟩,
    isFloating_of_digits ?_ (List.cons_ne_nil _ _) ?_, ?_, ?_⟩
  · exact List.forall_mem_singleton.mpr (by decide)
  · intro c member
    rcases List.mem_append.mp member with zero | digit
    · exact isDigit_of_mem_zeros zero
    · exact isDigit_of_mem_toDigits digit
  · simp [chars]
  · refine value_eq 0 ?_ ?_
    · dsimp only [Option.getD_some]
      rw [← List.append_assoc, List.singleton_append, ← List.replicate_succ,
        decimalValue_zeros_append, decimalValue_toDigits, pow_zero, mul_one]
    · simp only [writtenExponent, Option.getD_some, List.length_append, List.length_replicate]
      omega

/-- A digit, perhaps a point and more digits, and an exponent. -/
theorem laysOut_scientific {c : Char} {rest : List Char} {x : Int}
    (digits : Nat.toDigits 10 d.digits = c :: rest) (fraction : Option (List Char))
    (same : fraction.getD [] = rest) (shift : x - rest.length = d.exponent) :
    LaysOut d (chars ⟨[c], fraction, some (literalExponent x)⟩) := by
  have areDigits : ∀ k ∈ c :: rest, k.isDigit = true := by
    rw [← digits]
    exact fun k => isDigit_of_mem_toDigits
  have value := decimalValue_toDigits d.digits
  rw [digits] at value
  refine ⟨⟨[c], fraction, some (literalExponent x)⟩, ⟨⟨?_, ?_, ?_, ?_⟩, ?_, ?_⟩, rfl, ?_⟩
  · intro k member
    rw [List.mem_singleton.mp member]
    exact isDecimalDigit_of_isDigit (areDigits c List.mem_cons_self)
  · rintro ds rfl k member
    rw [Option.getD_some] at same
    rw [same] at member
    exact isDecimalDigit_of_isDigit (areDigits k (List.mem_cons_of_mem c member))
  · intro empty
    cases empty
  · rintro e ⟨⟩
    exact isWritten_literalExponent x
  · simp [isInteger]
  · exact ⟨c, [], rfl, areDigits c List.mem_cons_self⟩
  · refine value_eq 0 ?_ ?_
    · dsimp only
      rw [same, List.singleton_append, value, pow_zero, mul_one]
    · rw [writtenExponent_literalExponent, same, Nat.cast_zero, add_zero]
      exact shift

/-- **The layout of a decimal number is a literal of it.** -/
theorem laysOut_layout (d : Decimal) : LaysOut d d.layout := by
  have nonempty : 0 < (Nat.toDigits 10 d.digits).length :=
    List.length_pos_iff.mpr Nat.toDigits_ne_nil
  unfold Decimal.layout
  dsimp only
  split
  · split
    · next integral => exact laysOut_integer integral
    · next negative =>
      split
      · next inside => exact laysOut_split (by omega) (by omega) (by omega)
      · next outside => exact laysOut_fraction (by omega)
  · split
    · next none => exact absurd none Nat.toDigits_ne_nil
    · next c digits =>
      have written := laysOut_scientific (x := (Nat.toDigits 10 d.digits).length + d.exponent - 1)
        digits none rfl (by simp [digits])
      simpa [chars, chars_literalExponent] using written
    · next c rest _ digits =>
      have length : (Nat.toDigits 10 d.digits).length = rest.length + 1 := by
        rw [digits, List.length_cons]
      have written := laysOut_scientific (x := (Nat.toDigits 10 d.digits).length + d.exponent - 1)
        digits (some rest) rfl (by omega)
      simpa [chars, chars_literalExponent] using written

end Layouts

/-! ### Reading the text of a number -/

/-- **A finite number without a sign is read back from its text**, which is a literal with a
    point or an exponent. -/
theorem exists_literal_of_text {m : Nat} {e : Int} (canonical : CanonicalBinary m e) :
    ∃ l : DecimalLiteral, l.IsFloating ∧ l.chars = (finite false m e canonical).text.toList ∧
      l.toBinary64 false = finite false m e canonical := by
  by_cases zero : m = 0
  · subst zero
    obtain rfl : e = -1074 := canonical.2.2.2.resolve_left (by decide)
    refine ⟨⟨['0'], some ['0'], none⟩, isFloating_of_digits ?_ (List.cons_ne_nil _ _) ?_, ?_, rfl⟩
    · exact List.forall_mem_singleton.mpr (by decide)
    · exact List.forall_mem_singleton.mpr (by decide)
    · rw [text, String.toList_ofList]
      rfl
  · have positive : 0 < m := Nat.pos_of_ne_zero zero
    obtain ⟨l, floating, written, value⟩ := laysOut_layout (shortest m e)
    have rounds := roundsTo_shortest positive e
    rw [← value] at rounds
    refine ⟨l, floating, ?_, toBinary64_of_roundsTo canonical positive rounds⟩
    rw [written, text]
    simp [zero]

end Binary64

end FormEngine
