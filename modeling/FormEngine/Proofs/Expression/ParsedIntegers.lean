/-
  FormEngine/Proofs/Expression/ParsedIntegers.lean
  ================================================
  **`Number.parseInt` reads back an integer written in any base.**

  `IntegerText` is a text that begins with an integer: blanks, a sign, the numeral with
  letters in either case, and behind it nothing, a point or a space.  A mark of base
  sixteen may stand in front of the digits.  Trimming leaves the sign, the mark and the
  digits alone (`exists_spanSign_chars`), the mark is found exactly where it was written
  (`hasHexMark_digits`), and the digits are read up to what ends them
  (`leadingDigits_written`).
-/
import FormEngine.Expression.Library
import FormEngine.Proofs.Number.SafeIntegers
import FormEngine.Proofs.Number.Scanning
import FormEngine.Proofs.Text.Blanks
import FormEngine.Proofs.Text.Numerals

namespace FormEngine

/-- The text goes on, if at all, with a point or a space. -/
def EndsNumeral (rest : List Char) : Prop := ∀ c t, rest = c :: t → c = '.' ∨ c = ' '

/-- A text that begins with an integer in a base, part by part. -/
structure IntegerText (base : Nat) (n : Int) where
  blanks : List Char
  sign : List Char
  digits : List Char
  rest : List Char
  isBlank : Text.isBlankText blanks = true
  isSign : if n < 0 then sign = ['-'] else sign = [] ∨ sign = ['+']
  written : digits.map Char.toLower = Text.numeral base n.natAbs
  ends : EndsNumeral rest

/-- The characters, with a mark in front of the digits. -/
def IntegerText.chars {base : Nat} {n : Int} (mark : List Char) (t : IntegerText base n) :
    List Char :=
  t.blanks ++ (t.sign ++ (mark ++ (t.digits ++ t.rest)))

/-- The marks of a numeral in base sixteen. -/
def hexMarks : List (List Char) := [['0', 'x'], ['0', 'X']]

namespace Text

variable {base n d : Nat} {c : Char} {s before rest : List Char} {ds : List Nat}

theorem IsPlain.isBlank_eq_false (plain : IsPlain c) : isBlank c = false := by
  unfold IsPlain at plain
  apply isBlank_of_printed
  · omega
  · omega

theorem IsPlain.ne_sign (plain : IsPlain c) : c ≠ '+' ∧ c ≠ '-' := by
  constructor
  · rintro rfl
    revert plain
    decide
  · rintro rfl
    revert plain
    decide

/-! ### The digits -/

theorem leadingDigits_append (greatest : base ≤ 36) (small : ∀ d ∈ ds, d < base) :
    Library.leadingDigits base (ds.map digitChar ++ rest) =
      ds ++ Library.leadingDigits base rest := by
  induction ds with
  | nil => rfl
  | cons d ds ih =>
    have digit := baseDigit?_digitChar (small d List.mem_cons_self) greatest
    simp only [List.map_cons, List.cons_append, Library.leadingDigits, digit]
    rw [ih (fun e member => small e (List.mem_cons_of_mem d member))]

theorem leadingDigits_of_ends (ends : EndsNumeral rest) :
    Library.leadingDigits base (lowerAfter before rest) = [] := by
  cases rest with
  | nil => rfl
  | cons c t =>
    rcases ends c t rfl with rfl | rfl
    · have point : mapCase lowerRuns lowerExpansions '.' = ['.'] := mapCase_lower (by decide)
      simp [lowerAfter, point, Library.leadingDigits, baseDigit?]
    · have space : mapCase lowerRuns lowerExpansions ' ' = [' '] := mapCase_lower (by decide)
      simp [lowerAfter, space, Library.leadingDigits, baseDigit?]

/-- The digits of a numeral are read, and nothing else. -/
theorem leadingDigits_written (least : 2 ≤ base) (greatest : base ≤ 36)
    (written : s.map Char.toLower = numeral base n) (ends : EndsNumeral rest) :
    Library.leadingDigits base (lower (s ++ rest)) = digitValues base n := by
  have ascii : ∀ c ∈ s, c.toNat < 128 := by
    intro c member
    have plain := isPlain_of_written least greatest written c member
    unfold IsPlain at plain
    omega
  rw [lower, lowerAfter_append ascii, written, numeral,
    leadingDigits_append greatest (fun d member => lt_of_mem_digitValues least member),
    leadingDigits_of_ends ends, List.append_nil]

end Text

theorem EndsNumeral.of_isPrefix {rest t : List Char} (ends : EndsNumeral rest) (h : t <+: rest) :
    EndsNumeral t := by
  intro c u same
  obtain ⟨w, split⟩ := h
  rw [same] at split
  exact ends c (u ++ w) split.symm

namespace IntegerText

variable {base : Nat} {n : Int} {mark rest : List Char} {c : Char}

theorem sign_cases (t : IntegerText base n) :
    t.sign = [] ∨ t.sign = ['+'] ∨ t.sign = ['-'] := by
  have isSign := t.isSign
  split at isSign
  · exact Or.inr (Or.inr isSign)
  · rcases isSign with none | plus
    · exact Or.inl none
    · exact Or.inr (Or.inl plus)

theorem isBlank_of_mem_sign (t : IntegerText base n) (member : c ∈ t.sign) :
    Text.isBlank c = false := by
  rcases t.sign_cases with none | plus | minus
  · rw [none] at member
    cases member
  · rw [plus] at member
    rw [List.mem_singleton.mp member]
    decide
  · rw [minus] at member
    rw [List.mem_singleton.mp member]
    decide

/-- The sign and the magnitude make up the integer. -/
theorem signed_natAbs (t : IntegerText base n) :
    (if t.sign = ['-'] then -(n.natAbs : Int) else n.natAbs) = n := by
  have isSign := t.isSign
  split at isSign
  · rw [if_pos isSign]
    omega
  · rcases isSign with none | plus
    · rw [none, if_neg (by decide)]
      omega
    · rw [plus, if_neg (by decide)]
      omega

theorem digits_ne_nil (t : IntegerText base n) : t.digits ≠ [] := by
  intro none
  have written := t.written
  rw [none, Text.numeral] at written
  exact Text.digitValues_ne_nil base n.natAbs (List.map_eq_nil_iff.mp written.symm)

/-- Mark and digits hold figures and letters only. -/
theorem isPlain_of_mem (t : IntegerText base n) (least : 2 ≤ base) (greatest : base ≤ 36)
    (marked : mark ∈ [] :: hexMarks) (member : c ∈ mark ++ t.digits) : Text.IsPlain c := by
  have marks : ∀ mark ∈ [] :: hexMarks, ∀ c ∈ mark, Text.IsPlain c := by
    simp [hexMarks, Text.IsPlain]
  rcases List.mem_append.mp member with inMark | inDigits
  · exact marks mark marked c inMark
  · exact Text.isPlain_of_written least greatest t.written c inDigits

/-- Trimming leaves sign, mark and digits, and the sign is told from what follows it. -/
theorem exists_spanSign_chars (t : IntegerText base n) (least : 2 ≤ base) (greatest : base ≤ 36)
    (marked : mark ∈ [] :: hexMarks) :
    ∃ rest, EndsNumeral rest ∧
      DecimalLiteral.spanSign (Text.trim (t.chars mark)) =
        (t.sign, mark ++ (t.digits ++ rest)) := by
  have plain : ∀ c ∈ mark ++ t.digits, Text.IsPlain c := by
    intro c member
    exact t.isPlain_of_mem least greatest marked member
  have some : mark ++ t.digits ≠ [] := List.append_ne_nil_of_right_ne_nil mark t.digits_ne_nil
  have visible : ∀ c ∈ t.sign ++ (mark ++ t.digits), Text.isBlank c = false := by
    intro c member
    rcases List.mem_append.mp member with inSign | inside
    · exact t.isBlank_of_mem_sign inSign
    · exact (plain c inside).isBlank_eq_false
  obtain ⟨rest, before, trimmed⟩ := Text.exists_trim_append t.isBlank visible
    (List.append_ne_nil_of_right_ne_nil t.sign some) t.rest
  refine ⟨rest, t.ends.of_isPrefix before, ?_⟩
  simp only [List.append_assoc] at trimmed
  rw [chars, trimmed]
  apply DecimalLiteral.spanSign_signed t.sign_cases
  intro c u same
  obtain ⟨d, v, front⟩ := List.exists_cons_of_ne_nil some
  rw [← List.append_assoc, front] at same
  cases same
  apply (plain c _).ne_sign
  rw [front]
  exact List.mem_cons_self

/-! ### The mark of base sixteen -/

/-- Up to base sixteen no digit is taken for the letter of the mark. -/
theorem ne_markLetter (t : IntegerText base n) (least : 2 ≤ base) (small : base ≤ 16)
    (member : c ∈ t.digits) : c ≠ 'x' ∧ c ≠ 'X' := by
  have inside : c.toLower ∈ Text.numeral base n.natAbs := by
    rw [← t.written]
    exact List.mem_map_of_mem member
  obtain ⟨d, digit, same⟩ := List.mem_map.mp inside
  have bound := Text.lt_of_mem_digitValues least digit
  have value := Text.toNat_digitChar (d := d) (by omega)
  rw [same] at value
  constructor
  · rintro rfl
    have letter : ('x' : Char).toLower.toNat = 120 := by decide
    split at value <;> omega
  · rintro rfl
    have letter : ('X' : Char).toLower.toNat = 120 := by decide
    split at value <;> omega

theorem hasHexMark_digits (t : IntegerText base n) (least : 2 ≤ base) (small : base ≤ 16)
    (ends : EndsNumeral rest) : Library.hasHexMark (t.digits ++ rest) = false := by
  apply Bool.eq_false_iff.mpr
  intro marked
  unfold Library.hasHexMark at marked
  split at marked
  · next c u front =>
    have letter : c = 'x' ∨ c = 'X' := by simpa using marked
    cases split : t.digits with
    | nil => exact t.digits_ne_nil split
    | cons d ds =>
      rw [split] at front
      have behind : ds ++ rest = c :: u := (List.cons.inj front).2
      cases ds with
      | nil =>
        -- behind a single digit stands what ends the numeral
        rcases ends c u behind with rfl | rfl
        · revert letter
          decide
        · revert letter
          decide
      | cons e es =>
        have second : e = c := (List.cons.inj behind).1
        obtain ⟨notSmall, notCapital⟩ :=
          t.ne_markLetter least small (c := c) (by simp [split, second])
        rcases letter with rfl | rfl
        · exact notSmall rfl
        · exact notCapital rfl
  · cases marked

theorem baseAndText_given (t : IntegerText base n) (least : 2 ≤ base) (ends : EndsNumeral rest) :
    Library.baseAndText base (t.digits ++ rest) = ((base : Int), t.digits ++ rest) := by
  have some : ¬(base : Int) = 0 := by omega
  rw [Library.baseAndText, if_neg some]
  by_cases sixteen : base = 16
  · simp [t.hasHexMark_digits least (by omega) ends]
  · have other : ¬(base : Int) = 16 := by omega
    simp [other]

theorem baseAndText_decimal (t : IntegerText 10 n) (ends : EndsNumeral rest) :
    Library.baseAndText 0 (t.digits ++ rest) = (10, t.digits ++ rest) := by
  rw [Library.baseAndText, if_pos rfl, t.hasHexMark_digits (by decide) (by decide) ends]
  rfl

/-- A mark is taken off, whether the base is left open or given as sixteen. -/
theorem baseAndText_marked {requested : Int} (asked : requested = 0 ∨ requested = 16)
    (marked : mark ∈ hexMarks) (s : List Char) :
    Library.baseAndText requested (mark ++ s) = (16, s) := by
  simp only [hexMarks, List.mem_cons, List.not_mem_nil, or_false] at marked
  rcases asked with rfl | rfl
  · rcases marked with rfl | rfl
    · rfl
    · rfl
  · rcases marked with rfl | rfl
    · rfl
    · rfl

/-! ### Reading the text -/

/-- Once base and mark are settled, the text is read as its integer. -/
theorem parseInt_chars (t : IntegerText base n) (least : 2 ≤ base) (greatest : base ≤ 36)
    (marked : mark ∈ [] :: hexMarks) {args : List Value} {requested : Int}
    (asked : Library.requestedBase (.text (String.ofList (t.chars mark)) :: args) = .ok requested)
    (found : ∀ rest, EndsNumeral rest →
      Library.baseAndText requested (mark ++ (t.digits ++ rest)) = ((base : Int), t.digits ++ rest))
    (short : (Text.digitValues base n.natAbs).length ≤ digitLimit) :
    Library.parseInt (.text (String.ofList (t.chars mark)) :: args) =
      .ok (Number.int n).normalise := by
  obtain ⟨rest, ends, split⟩ := t.exists_spanSign_chars least greatest marked
  have text : Library.textArgument (.text (String.ofList (t.chars mark)) :: args) 0 =
      .ok (String.ofList (t.chars mark)) := rfl
  have digits := Text.leadingDigits_written least greatest t.written ends
  have some : (Text.digitValues base n.natAbs).isEmpty = false := by
    simp [Text.digitValues_ne_nil]
  have read : Text.readInBase base (Text.digitValues base n.natAbs) = .ok n.natAbs := by
    simp [Text.readInBase, short, Text.valueInBase_digitValues]
  have inRange : ¬((base : Int) < 2 ∨ 36 < (base : Int)) := by omega
  unfold Library.parseInt
  rw [text, asked]
  simp only [bind, Except.bind, String.toList_ofList, split, found rest ends, inRange, if_false,
    Int.toNat_natCast, digits, some, read]
  change Except.ok
    (Number.int (if t.sign = ['-'] then -(n.natAbs : Int) else n.natAbs)).normalise = _
  rw [t.signed_natAbs]

end IntegerText

namespace Library

variable {n : Int}

theorem requestedBase_int {base : Nat} (small : base ≤ 36) (s : String) :
    requestedBase [.text s, .int base] = .ok base := by
  have safe : (base : Int).natAbs ≤ Number.maxSafeInteger := by
    rw [Int.natAbs_natCast]
    exact small.trans (by decide)
  have converted : (Value.int base).toNumber = .ok (.int base) :=
    congrArg Except.ok (Number.normalise_int_of_le safe)
  change (do return (← (Value.int base).toNumber).truncated?.getD 0) = _
  rw [converted]
  exact congrArg Except.ok (Binary64.truncated_intCast base)

/-- A safe integer has few digits in any base. -/
theorem length_digitValues_le_limit {base : Nat} (least : 2 ≤ base)
    (safe : n.natAbs ≤ Number.maxSafeInteger) :
    (Text.digitValues base n.natAbs).length ≤ digitLimit := by
  have bits : n.natAbs < 2 ^ 53 := Nat.lt_succ_of_le safe
  have few := Text.length_digitValues_le least (by decide) bits
  exact few.trans (by decide)

/-- A text whose base and mark are settled is the integer that it writes. -/
theorem apply_parseInt_of_found {base : Nat} {mark : List Char} {args : List Value}
    {requested : Int}
    (safe : n.natAbs ≤ Number.maxSafeInteger) (t : IntegerText base n) (least : 2 ≤ base)
    (greatest : base ≤ 36) (marked : mark ∈ [] :: hexMarks)
    (asked : requestedBase (.text (String.ofList (t.chars mark)) :: args) = .ok requested)
    (found : ∀ rest, EndsNumeral rest →
      baseAndText requested (mark ++ (t.digits ++ rest)) = ((base : Int), t.digits ++ rest)) :
    apply .parseInt (.text (String.ofList (t.chars mark)) :: args) = .ok (.int n) := by
  have read := t.parseInt_chars least greatest marked asked found
    (length_digitValues_le_limit least safe)
  rw [Number.normalise_int_of_le safe] at read
  rw [apply, read]
  rfl

/-- **An integer is read back from its numeral in any base from 2 to 36.**  Blanks and a sign may
    stand in front of the numeral, its letters may be small or capital, and it may be followed by
    nothing, a point or a space, and then by any text.  Where no base is given the numeral is
    decimal, or of base sixteen behind its mark; the mark may also stand there when sixteen is
    given. -/
theorem apply_parseInt_chars (safe : n.natAbs ≤ Number.maxSafeInteger) :
    (∀ base : Nat, 2 ≤ base → base ≤ 36 → ∀ t : IntegerText base n,
      apply .parseInt [.text (String.ofList (t.chars [])), .int base] = .ok (.int n)) ∧
    (∀ t : IntegerText 10 n, apply .parseInt [.text (String.ofList (t.chars []))] = .ok (.int n)) ∧
    ∀ mark ∈ hexMarks, ∀ t : IntegerText 16 n,
      apply .parseInt [.text (String.ofList (t.chars mark))] = .ok (.int n) ∧
      apply .parseInt [.text (String.ofList (t.chars mark)), .int 16] = .ok (.int n) := by
  have unasked : ∀ s : String, requestedBase [.text s] = .ok 0 := fun _ => rfl
  refine ⟨?_, ?_, ?_⟩
  · intro base least greatest t
    apply apply_parseInt_of_found safe t least greatest List.mem_cons_self
      (requestedBase_int greatest _)
    intro rest ends
    exact t.baseAndText_given least ends
  · intro t
    apply apply_parseInt_of_found safe t (by decide) (by decide) List.mem_cons_self (unasked _)
    intro rest ends
    exact t.baseAndText_decimal ends
  · intro mark marked t
    have among : mark ∈ [] :: hexMarks := List.mem_cons_of_mem [] marked
    constructor
    · apply apply_parseInt_of_found safe t (by decide) (by decide) among (unasked _)
      intro rest _
      exact IntegerText.baseAndText_marked (Or.inl rfl) marked _
    · apply apply_parseInt_of_found safe t (by decide) (by decide) among
        (requestedBase_int (by decide) _)
      intro rest _
      exact IntegerText.baseAndText_marked (Or.inr rfl) marked _

/-- The least safe integer in base 36 with a point behind it, and a marked numeral with a unit. -/
theorem apply_parseInt_chars_least :
    (-9007199254740991 : Int).natAbs ≤ Number.maxSafeInteger ∧
      apply .parseInt [.text "\t -2gOsA7pA2GV.ΑΣ", .int 36] = .ok (.int (-9007199254740991)) ∧
      (255 : Int).natAbs ≤ Number.maxSafeInteger ∧
      apply .parseInt [.text "+0XfF px"] = .ok (.int 255) := by
  have least : (-9007199254740991 : Int).natAbs ≤ Number.maxSafeInteger := by decide
  have byte : (255 : Int).natAbs ≤ Number.maxSafeInteger := by decide
  obtain ⟨given, _, _⟩ := apply_parseInt_chars least
  obtain ⟨_, _, marked⟩ := apply_parseInt_chars byte
  have point : EndsNumeral ".ΑΣ".toList := by
    intro c t same
    exact Or.inl (List.cons.inj same).1.symm
  have space : EndsNumeral " px".toList := by
    intro c t same
    exact Or.inr (List.cons.inj same).1.symm
  refine ⟨least, ?_, byte, ?_⟩
  · exact given 36 (by decide) (by decide)
      ⟨"\t ".toList, ['-'], "2gOsA7pA2GV".toList, ".ΑΣ".toList, by decide, rfl,
        by decide +kernel, point⟩
  · exact (marked ['0', 'X'] (by decide)
      ⟨[], ['+'], ['f', 'F'], " px".toList, rfl, Or.inr rfl, by decide +kernel, space⟩).1

end Library

end FormEngine
