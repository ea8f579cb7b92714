/-
  FormEngine/Proofs/Value/WrittenNumbers.lean
  ===========================================
  **A number is read back from its text.**

  Reading trims blanks, then takes digits with a sign for the integer that they write
  (`Number.ofTrimmed_decimal`), so an integer comes back in normal form.  An integral
  binary64 number below 10^21 is written as the integer that it is worth, and both
  have one normal form (`Number.normalise_int_of_toInt?`), wherever it lies in the safe
  range or beyond.  NaN and the infinities have texts of their own.
-/
import FormEngine.Proofs.Number.Digits
import FormEngine.Proofs.Number.NormalForm
import FormEngine.Proofs.Number.Reading
import FormEngine.Proofs.Text.Blanks
import FormEngine.Value.Conversion

namespace FormEngine

/-- Both ways of writing the power; with the exponent a variable neither is computed. -/
theorem Text.lt_pow_iff (n k : Nat) : n < Nat.pow 10 k ↔ n < 10 ^ k := Iff.rfl

/-! ### Numbers and their texts -/

namespace Number

open DecimalLiteral

/-- The digits of an integer, with its sign, are read as the integer. -/
theorem ofTrimmed_decimal {n : Int} (short : n.natAbs < 10 ^ digitLimit) :
    ofTrimmed (Text.decimal n).toList = .ok (int n).normalise := by
  have digits : ∀ c ∈ Nat.toDigits 10 n.natAbs, Text.isDecimalDigit c = true :=
    fun c member => Text.isDecimalDigit_of_isDigit (Text.isDigit_of_mem_toDigits member)
  have read : DecimalLiteral.toNat ⟨Nat.toDigits 10 n.natAbs, none, none⟩ = .ok n.natAbs :=
    Text.readDecimal_toDigits short
  rw [Text.toList_decimal_int]
  by_cases negative : n < 0
  · have magnitude : -(n.natAbs : Int) = n := by omega
    rw [if_pos negative, ofTrimmed_signed (by simp) digits Nat.toDigits_ne_nil]
    simp only [ofLiteral, isInteger, Option.isNone_none, Bool.and_self, if_true, read]
    exact congrArg (fun k => Except.ok (int k).normalise) magnitude
  · have magnitude : (n.natAbs : Int) = n := by omega
    rw [if_neg negative, ofTrimmed_signed (by simp) digits Nat.toDigits_ne_nil]
    simp only [ofLiteral, isInteger, Option.isNone_none, Bool.and_self, if_true, read]
    exact congrArg (fun k => Except.ok (int k).normalise) magnitude

theorem not_isBlank_of_mem_decimal {n : Int} {c : Char} (member : c ∈ (Text.decimal n).toList) :
    Text.isBlank c = false := by
  rw [Text.toList_decimal_int] at member
  rcases List.mem_append.mp member with inSign | inDigits
  · split at inSign
    · rw [List.mem_singleton.mp inSign]
      decide
    · cases inSign
  · exact Text.isBlank_of_isDigit (Text.isDigit_of_mem_toDigits inDigits)

/-- The text of the number shows all of it: an integer has no more digits than are written, and a
    binary64 number, unless it is NaN or infinite, is an integer below 10^21. -/
def IsWrittenOut : Number → Prop
  | .int n => n.natAbs < 10 ^ digitLimit
  | .float x => x.isFinite = true → ∃ n, x.toInt? = some n ∧ n.natAbs < 10 ^ 21

theorem floatText_of_toInt? {x : Binary64} {n : Int} (integral : x.toInt? = some n)
    (small : n.natAbs < 10 ^ 21) : floatText x = Text.decimal n := by
  cases x with
  | nan => cases integral
  | infinite negative => cases integral
  | finite negative m e canonical =>
    rw [floatText]
    · rw [integral]
      exact if_pos small
    · intro same
      cases same
    · intro other same
      cases same

/-- **The text of a number without blanks is read as its normal form.** -/
theorem exists_text_ofTrimmed {x : Number} (h : x.IsWrittenOut) :
    ∃ s, x.text = .ok s ∧ (∀ c ∈ s.toList, Text.isBlank c = false) ∧
      ofTrimmed s.toList = .ok x.normalise := by
  cases x with
  | int n =>
    have short : n.natAbs < Nat.pow 10 digitLimit := (Text.lt_pow_iff _ digitLimit).mpr h
    exact ⟨_, Text.writeDecimal_of_lt short, fun c => not_isBlank_of_mem_decimal,
      ofTrimmed_decimal h⟩
  | float x =>
    refine ⟨floatText x, rfl, ?_⟩
    have visible : ∀ {s : List Char}, (s.all fun c => !Text.isBlank c) = true →
        ∀ c ∈ s, Text.isBlank c = false := by
      intro s all c member
      simpa using List.all_eq_true.mp all c member
    cases x with
    | nan => exact ⟨visible (by decide), rfl⟩
    | infinite negative =>
      cases negative with
      | true => exact ⟨visible (by decide), rfl⟩
      | false => exact ⟨visible (by decide), rfl⟩
    | finite negative m e canonical =>
      obtain ⟨n, integral, small⟩ := h rfl
      have longer : 21 < digitLimit := by decide
      have short : n.natAbs < 10 ^ digitLimit :=
        small.trans (Nat.pow_lt_pow_right Nat.one_lt_ofNat longer)
      rw [floatText_of_toInt? integral small, ← normalise_int_of_toInt? integral]
      exact ⟨fun c => not_isBlank_of_mem_decimal, ofTrimmed_decimal short⟩

end Number

namespace Value

/-- **A number is read back from its text.**  Blanks around the text do not matter, and the list
    of the number counts as the same number. -/
theorem toNumber_of_toText {x : Number} (h : x.IsWrittenOut) {u w : String}
    (left : Text.isBlankText u.toList = true) (right : Text.isBlankText w.toList = true) :
    ∃ s, (Value.number x).toText = .ok s ∧
      (Value.text (u ++ s ++ w)).toNumber = .ok x.normalise ∧
      ∀ i, (Value.list i [.number x]).toNumber = .ok x.normalise := by
  obtain ⟨s, written, visible, read⟩ := Number.exists_text_ofTrimmed h
  have surrounded : ∀ {u w : String}, Text.isBlankText u.toList = true →
      Text.isBlankText w.toList = true → Number.ofText (u ++ s ++ w) = .ok x.normalise := by
    intro u w left right
    rw [Number.ofText, String.toList_append, String.toList_append,
      Text.trim_surrounded left right visible, read]
  have bare : Number.ofText s = .ok x.normalise := by
    have alone := surrounded (u := "") (w := "") rfl rfl
    rwa [String.empty_append, String.append_empty] at alone
  refine ⟨s, written, surrounded left right, ?_⟩
  intro i
  rw [toNumber, toText, written]
  exact bare

/-- A binary64 number beyond the safe range, with blanks around its digits. -/
theorem toNumber_of_toText_exa :
    ∃ x s, x = Number.float (.finite true fullMantissa 8 (by decide)) ∧
      (Value.number x).toText = .ok s ∧
      (Value.text ("\t " ++ s ++ "\u3000\n")).toNumber = .ok x ∧
      (Value.list (.read 0 0) [.number x]).toNumber = .ok x := by
  have integral : (Binary64.finite true fullMantissa 8 (by decide)).toInt? =
      some (-1152921504606846976) := by decide +kernel
  have normal : (Number.float (.finite true fullMantissa 8 (by decide))).IsNormal := by
    intro n same
    rw [integral] at same
    cases same
    decide
  have writtenOut : (Number.float (.finite true fullMantissa 8 (by decide))).IsWrittenOut :=
    fun _ => ⟨_, integral, by decide⟩
  obtain ⟨s, written, read, listed⟩ :=
    toNumber_of_toText writtenOut (u := "\t ") (w := "\u3000\n") (by decide) (by decide)
  rw [Number.normalise_of_isNormal normal] at read listed
  exact ⟨_, s, rfl, written, read, listed _⟩

end Value

end FormEngine
