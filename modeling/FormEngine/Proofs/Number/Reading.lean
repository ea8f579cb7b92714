/-
  FormEngine/Proofs/Number/Reading.lean
  =====================================
  **Which texts can be read as a number.**

  Every text is a number of some kind, NaN at worst, but the digits of an integer
  are converted only up to a limit.  A text is refused exactly if it is a row of
  digits beyond that limit, blanks around it and one sign in front aside
  (`Number.exists_ofText_iff`).
-/
import FormEngine.Number.Text
import FormEngine.Proofs.Number.Scanning
import FormEngine.Proofs.Outcome

namespace FormEngine

/-- Digits of any script, more than are converted, perhaps with a sign in front. -/
def Number.IsOverlongInteger (s : List Char) : Prop :=
  ∃ sign digits, s = sign ++ digits ∧ (sign = [] ∨ sign = ['+'] ∨ sign = ['-']) ∧
    (∀ c ∈ digits, Text.isDecimalDigit c = true) ∧ digitLimit < digits.length

namespace DecimalLiteral

variable {l : DecimalLiteral} {s ds : List Char}

theorem sign_spanSign (s : List Char) :
    (spanSign s).1 = [] ∨ (spanSign s).1 = ['+'] ∨ (spanSign s).1 = ['-'] := by
  cases s with
  | nil => exact Or.inl rfl
  | cons c s =>
    by_cases sign : c = '+' ∨ c = '-'
    · rcases sign with rfl | rfl <;> simp [spanSign]
    · simp [spanSign, sign]

theorem isWritten_of_ofText? (h : ofText? s = some l) : l.IsWritten ∧ l.chars = s := by
  unfold ofText? at h
  split at h
  · next found =>
    cases h
    have whole := scan_append found
    rw [List.append_nil] at whole
    exact ⟨isWritten_of_scan found, whole⟩
  · cases h

theorem chars_of_isInteger (integer : l.isInteger = true) : l.chars = l.whole := by
  obtain ⟨whole, fraction, exponent⟩ := l
  rw [isInteger, Bool.and_eq_true, Option.isNone_iff_eq_none, Option.isNone_iff_eq_none] at integer
  obtain ⟨noFraction, noExponent⟩ := integer
  dsimp only at noFraction noExponent
  subst noFraction noExponent
  simp [chars]

end DecimalLiteral

namespace Number

open DecimalLiteral

theorem exists_ofLiteral_iff {negative : Bool} {l : DecimalLiteral} :
    (∃ x, ofLiteral negative l = .ok x) ↔ (l.isInteger = true → l.whole.length ≤ digitLimit) := by
  by_cases integer : l.isInteger = true
  · rw [ofLiteral, if_pos integer, imp_iff_right integer]
    refine Iff.trans (Except.exists_bind_eq_ok_iff_of_total (fun n => ⟨_, rfl⟩)) ?_
    by_cases short : l.whole.length ≤ digitLimit
    · exact iff_of_true ⟨_, Text.readDecimal_of_length_le short⟩ short
    · refine iff_of_false (fun ⟨n, h⟩ => ?_) short
      rw [DecimalLiteral.toNat, Text.readDecimal, if_neg short] at h
      cases h
  · rw [ofLiteral, if_neg integer]
    exact iff_of_true ⟨_, rfl⟩ (fun other => absurd other integer)

/-- A literal with a sign in front is read as this literal. -/
theorem ofTrimmed_literal {sign : List Char} {l : DecimalLiteral}
    (isSign : sign = [] ∨ sign = ['+'] ∨ sign = ['-']) (written : l.IsWritten) :
    ofTrimmed (sign ++ l.chars) = ofLiteral (sign = ['-']) l := by
  have split := written.spanSign_signed isSign []
  rw [List.append_nil] at split
  have visible : (sign ++ l.chars).isEmpty = false := by simp [written.chars_ne_nil]
  rw [ofTrimmed, visible, split]
  simp only [Bool.false_eq_true, if_false, written.ofText?_chars]

theorem ofTrimmed_signed {sign ds : List Char} (isSign : sign = [] ∨ sign = ['+'] ∨ sign = ['-'])
    (digits : ∀ c ∈ ds, Text.isDecimalDigit c = true) (ne : ds ≠ []) :
    ofTrimmed (sign ++ ds) = ofLiteral (sign = ['-']) ⟨ds, none, none⟩ := by
  have read := ofTrimmed_literal isSign (isWritten_digits digits ne)
  rwa [chars_digits] at read

theorem exists_ofTrimmed_iff {s : List Char} :
    (∃ x, ofTrimmed s = .ok x) ↔ ¬IsOverlongInteger s := by
  constructor
  · rintro ⟨x, read⟩ ⟨sign, digits, rfl, isSign, areDigits, long⟩
    have ne : digits ≠ [] := by
      rintro rfl
      exact Nat.not_lt_zero _ long
    rw [ofTrimmed_signed isSign areDigits ne] at read
    have short := exists_ofLiteral_iff.mp ⟨x, read⟩ rfl
    exact Nat.not_lt.mpr short long
  · intro short
    by_cases empty : s.isEmpty = true
    · rw [ofTrimmed, if_pos empty]
      exact ⟨_, rfl⟩
    rw [ofTrimmed, if_neg empty]
    dsimp only
    split
    · next l found =>
      refine exists_ofLiteral_iff.mpr (fun integer => Nat.not_lt.mp (fun long => short ?_))
      obtain ⟨written, chars⟩ := isWritten_of_ofText? found
      rw [chars_of_isInteger integer] at chars
      refine ⟨(spanSign s).1, l.whole, ?_, sign_spanSign s, written.whole, long⟩
      rw [chars, spanSign_append]
    · split
      · exact ⟨_, rfl⟩
      · exact ⟨_, rfl⟩

/-- A text is read as a number unless it is an integer that is too long. -/
theorem exists_ofText_iff {s : String} :
    (∃ x, ofText s = .ok x) ↔ ¬IsOverlongInteger (Text.trim s.toList) :=
  exists_ofTrimmed_iff

end Number

end FormEngine
