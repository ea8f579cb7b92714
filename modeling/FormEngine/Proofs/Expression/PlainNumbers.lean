/-
  FormEngine/Proofs/Expression/PlainNumbers.lean
  ==============================================
  **A plain number is read alike on purpose and in passing.**

  `Number.parseFloat` takes the longest number at the front of a text and makes a
  binary64 number of it.  An operator that meets a text takes the whole of it, and makes
  an integer of digits without point and exponent.  On a text that is a plain number,
  blanks around it aside, both find the same literal, since nothing but blanks stands
  behind it and no literal goes on with a blank.  Digits then come to the same number
  both ways, because an integer and the binary64 number nearest to it have one normal
  form (`normalise_ofDecimal`): in the safe range, beyond it, and beyond all finite
  numbers.
-/
import FormEngine.Expression.Library
import FormEngine.Proofs.Number.Reading
import FormEngine.Proofs.Number.SafeIntegers
import FormEngine.Proofs.Text.Blanks

namespace FormEngine

/-- A decimal number or an infinity, with or without a sign. -/
inductive IsPlainNumber : List Char → Prop
  | decimal {sign : List Char} {l : DecimalLiteral}
      (isSign : sign = [] ∨ sign = ['+'] ∨ sign = ['-']) (written : l.IsWritten) :
      IsPlainNumber (sign ++ l.chars)
  | infinity {sign : List Char} (isSign : sign = [] ∨ sign = ['+'] ∨ sign = ['-']) :
      IsPlainNumber (sign ++ "Infinity".toList)

/-! ### Digits as an integer and as a binary64 number -/

namespace Binary64

/-- Without a power of ten a decimal number is rounded as an integer. -/
theorem ofDecimal_zero (negative : Bool) (n : Nat) :
    ofDecimal negative n 0 = ofRatio negative n 1 := by
  by_cases none : n = 0
  · rw [ofDecimal, if_pos none, ofRatio, if_pos none]
  · have notTiny : ¬(n.log2 : Int) / 3 + 1 + 0 < -400 := by omega
    rw [ofDecimal, if_neg none, if_neg (by decide), if_neg notTiny]
    simp

theorem ofRatio_one {n : Nat} (ne : n ≠ 0) (negative : Bool) :
    ofRatio negative n 1 = ofInt (if negative then -(n : Int) else n) := by
  cases negative with
  | true =>
    have positive : 0 < n := Nat.pos_of_ne_zero ne
    simp [ofInt, positive]
  | false =>
    have notBelow : ¬(n : Int) < 0 := by omega
    simp [ofInt, notBelow]

end Binary64

namespace Number

open DecimalLiteral

variable {sign rest : List Char} {l : DecimalLiteral} {s : String}

theorem normalise_ofDecimal (negative : Bool) (n : Nat) :
    (float (Binary64.ofDecimal negative n 0)).normalise =
      (int (if negative then -(n : Int) else n)).normalise := by
  rw [Binary64.ofDecimal_zero]
  by_cases none : n = 0
  · -- the zero has a sign as a binary64 number, and none in normal form
    subst none
    have value : (Binary64.ofRatio negative 0 1).toRat? = some ((0 : Int) : ℚ) := by
      simp [Binary64.ofRatio, Binary64.toRat?_zero]
    rw [normalise_float_of_toRat? value (Nat.zero_le _)]
    cases negative with
    | true => rfl
    | false => rfl
  · rw [Binary64.ofRatio_one none, normalise_float_ofInt]

/-- A literal that is not too long is worth its binary64 number, written as an integer or not. -/
theorem ofLiteral_eq (negative : Bool) (short : l.isInteger = true → l.whole.length ≤ digitLimit) :
    ofLiteral negative l = .ok (float (l.toBinary64 negative)).normalise := by
  by_cases integer : l.isInteger = true
  · have read : l.toNat = .ok (Text.decimalValue l.whole) :=
      Text.readDecimal_of_length_le (short integer)
    have parts : l.fraction = none ∧ l.exponent = none := by simpa [isInteger] using integer
    have value :
        l.toBinary64 negative = Binary64.ofDecimal negative (Text.decimalValue l.whole) 0 := by
      simp [DecimalLiteral.toBinary64, writtenExponent, parts]
    rw [ofLiteral, if_pos integer, read, value, normalise_ofDecimal]
    rfl
  · rw [ofLiteral, if_neg integer]
    rfl

/-! ### Reading from the front -/

/-- In front of what no literal goes on with, a literal is the number at the front. -/
theorem ofFront_literal (isSign : sign = [] ∨ sign = ['+'] ∨ sign = ['-']) (written : l.IsWritten)
    (ends : EndsLiteral rest) (split : Text.trimLeft s.toList = sign ++ (l.chars ++ rest)) :
    ofFront s = (float (l.toBinary64 (sign = ['-']))).normalise := by
  have notInfinity : "Infinity".toList.isPrefixOf (l.chars ++ rest) = false := by
    obtain ⟨c, t, first, digit | rfl⟩ := written.exists_cons
    · have other : 'I' ≠ c := by
        rintro rfl
        cases digit
      simp [first, List.isPrefixOf, other]
    · simp [first, List.isPrefixOf]
  rw [ofFront, split, written.spanSign_signed isSign]
  simp only [notInfinity, scan_chars_append written ends]
  rfl

theorem ofFront_infinity (isSign : sign = [] ∨ sign = ['+'] ∨ sign = ['-'])
    (split : Text.trimLeft s.toList = sign ++ ("Infinity".toList ++ rest)) :
    ofFront s = infinity (sign = ['-']) := by
  have unsigned : spanSign (sign ++ ("Infinity".toList ++ rest)) =
      (sign, "Infinity".toList ++ rest) := by
    apply spanSign_signed isSign
    intro c t same
    cases same
    decide
  have found : "Infinity".toList.isPrefixOf ("Infinity".toList ++ rest) = true := by
    simp
  rw [ofFront, split, unsigned]
  simp only [found]
  rfl

/-! ### Both ways -/

theorem endsLiteral_of_isBlankText (blank : Text.isBlankText rest = true) : EndsLiteral rest := by
  intro c t same
  have first : Text.isBlank c = true := by
    apply List.all_eq_true.mp blank
    simp [same]
  have other : c ∉ ['.', 'e', 'E'] := Text.not_mem_of_isBlank first (by decide)
  refine ⟨Text.isDecimalDigit_of_isBlank first, ?_⟩
  simpa using other

theorem ofTrimmed_infinity (isSign : sign = [] ∨ sign = ['+'] ∨ sign = ['-']) :
    ofTrimmed (sign ++ "Infinity".toList) = .ok (infinity (sign = ['-'])) := by
  rcases isSign with rfl | rfl | rfl
  · rfl
  · rfl
  · rfl

/-- **A text that is a plain number is read alike from the front and as a whole**, unless it has
    too many digits to be read as a whole. -/
theorem ofText_eq_ofFront (plain : IsPlainNumber (Text.trim s.toList))
    (short : ¬IsOverlongInteger (Text.trim s.toList)) : ofText s = .ok (ofFront s) := by
  obtain ⟨blanks, blank, behind⟩ := Text.exists_trimLeft_eq s.toList
  rw [ofText]
  generalize Text.trim s.toList = trimmed at plain short behind
  rcases plain with ⟨isSign, written⟩ | isSign
  · next sign l =>
    rw [List.append_assoc] at behind
    rw [ofFront_literal isSign written (endsLiteral_of_isBlankText blank) behind,
      ofTrimmed_literal isSign written]
    apply ofLiteral_eq
    intro integer
    apply Nat.not_lt.mp
    intro long
    apply short
    exact ⟨sign, l.whole, by rw [chars_of_isInteger integer], isSign, written.whole, long⟩
  · rw [List.append_assoc] at behind
    rw [ofFront_infinity isSign behind, ofTrimmed_infinity isSign]

/-- Not enough characters for too many digits. -/
theorem not_isOverlongInteger (short : s.length ≤ digitLimit) :
    ¬IsOverlongInteger (Text.trim s.toList) := by
  rintro ⟨sign, digits, split, _, _, long⟩
  have within := Text.length_trim_le s.toList
  rw [split, List.length_append, String.length_toList] at within
  omega

end Number

namespace Library

/-- **A text that is a plain number is the same number explicitly and implicitly.**  On every text
    within the limit on digits that, without the blanks around it, is a decimal number or an
    infinity, with or without a sign, both conversions have a result, and it is the same. -/
theorem apply_parseFloat_eq_toNumber {s : String} (short : s.length ≤ digitLimit)
    (plain : IsPlainNumber (Text.trim s.toList)) :
    ∃ x, (Value.text s).toNumber = .ok x ∧ apply .parseFloat [.text s] = .ok (.number x) := by
  have read := Number.ofText_eq_ofFront plain (Number.not_isOverlongInteger short)
  exact ⟨Number.ofFront s, read, rfl⟩

/-- Fullwidth digits between blanks, for an integer halfway between two binary64 numbers. -/
theorem apply_parseFloat_eq_toNumber_fullwidth :
    ∃ s : String, s = " -９００７１９９２５４７４０９９３\n" ∧ s.length ≤ digitLimit ∧
      IsPlainNumber (Text.trim s.toList) ∧
      (Value.text s).toNumber = .ok (.float (.ofInt (-9007199254740992))) ∧
      apply .parseFloat [.text s] = .ok (.float (.ofInt (-9007199254740992))) := by
  have trimmed : Text.trim " -９００７１９９２５４７４０９９３\n".toList =
      ['-'] ++ DecimalLiteral.chars ⟨"９００７１９９２５４７４０９９３".toList, none, none⟩ := by decide +kernel
  have digits : ∀ c ∈ "９００７１９９２５４７４０９９３".toList, Text.isDecimalDigit c = true :=
    List.all_eq_true.mp (by decide +kernel)
  have plain : IsPlainNumber (Text.trim " -９００７１９９２５４７４０９９３\n".toList) := by
    rw [trimmed]
    exact .decimal (Or.inr (Or.inr rfl)) (DecimalLiteral.isWritten_digits digits (by decide))
  have short : " -９００７１９９２５４７４０９９３\n".length ≤ digitLimit := by decide
  obtain ⟨x, converted, parsed⟩ := apply_parseFloat_eq_toNumber short plain
  have value : (Value.text " -９００７１９９２５４７４０９９３\n").toNumber =
      .ok (.float (.ofInt (-9007199254740992))) := by decide +kernel
  rw [value] at converted
  cases converted
  exact ⟨_, rfl, short, plain, value, parsed⟩

end Library

end FormEngine
