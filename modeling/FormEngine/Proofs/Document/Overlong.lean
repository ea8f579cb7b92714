/-
  FormEngine/Proofs/Document/Overlong.lean
  ========================================
  **Overlong integers in documents.**

  An integer with more digits than are converted is no value (`IsOverlong`).  The readers
  of this library say so of a mapping and of a settings file that hold one, in both
  dialects and whatever the digits are.
-/
import FormEngine.Document.Loading

namespace FormEngine.Document

/-- The digits of an integer that is too long to be converted. -/
structure IsOverlong (digits : List Char) : Prop where
  isDigit : ∀ c ∈ digits, c.isDigit = true
  head_ne : digits.head? ≠ some '0'
  long : digitLimit < digits.length

/-- A mapping whose only value is the integer with these digits. -/
def mappingOf (digits : List Char) : List Char :=
  '\x7b' :: '\x22' :: 'a' :: '\x22' :: ':' :: ' ' :: (digits ++ ['\x7d'])

/-- The line of a setting that is the integer with these digits. -/
def settingLine (digits : List Char) : List Char := "max_expression_length = ".toList ++ digits

/-- A settings file whose only setting is the integer with these digits. -/
def settingsFileOf (digits : List Char) : List Char := "[engine]\n".toList ++ settingLine digits

variable {digits rest s : List Char} {c : Char} {span : List Char → List Char × List Char}
  {dialect : Dialect} {words : List (String × Value)} {number fuel : Nat} {v : Value}
  {error : DocumentFault} {bare : List Char → Except DocumentFault (Value × List Char)}

/-! ### Digits -/

/-- A digit is none of the characters that mean something else. -/
theorem ne_of_isDigit {mark : Char} (digit : c.isDigit = true) (other : mark.isDigit = false) :
    c ≠ mark := by
  rintro rfl
  rw [digit] at other
  cases other

theorem IsOverlong.exists_cons (overlong : IsOverlong digits) :
    ∃ c rest, digits = c :: rest ∧ c.isDigit = true ∧ c ≠ '0' := by
  cases digits with
  | nil => exact absurd overlong.long (Nat.not_lt_zero _)
  | cons c rest =>
    exact ⟨c, rest, rfl, overlong.isDigit c List.mem_cons_self,
      fun zero => overlong.head_ne (congrArg some zero)⟩

/-- Digits are taken up to the first character of another kind. -/
theorem spanAsciiDigits_append (isDigit : ∀ c ∈ digits, c.isDigit = true)
    (stops : rest.head?.all (fun c => !c.isDigit) = true) :
    spanAsciiDigits (digits ++ rest) = (digits, rest) := by
  rw [spanAsciiDigits, List.takeWhile_append_of_pos isDigit, List.dropWhile_append_of_pos isDigit]
  cases rest with
  | nil => rw [List.takeWhile_nil, List.dropWhile_nil, List.append_nil]
  | cons c rest =>
    have other : ¬c.isDigit = true := by simpa using stops
    rw [List.takeWhile_cons_of_neg other, List.dropWhile_cons_of_neg other, List.append_nil]

theorem integerPart?_of_isOverlong (overlong : IsOverlong digits)
    (spanned : span s = (digits, rest)) : integerPart? span s = some (digits, rest) := by
  obtain ⟨c, others, rfl, _, notZero⟩ := overlong.exists_cons
  rw [integerPart?, spanned]
  split
  · next none => cases none
  · next zero =>
    cases zero
    exact absurd rfl notZero
  · next found =>
    cases found
    rfl

/-- The digits have no value. -/
theorem numberValue_of_isOverlong {negative : Bool} (overlong : IsOverlong digits) :
    numberValue negative ⟨digits, none, none⟩ = .error (.numeral (.reading digits.length)) := by
  have tooLong : Text.readDecimal digits = .error (.reading digits.length) :=
    if_neg (Nat.not_le.mpr overlong.long)
  have integer : DecimalLiteral.isInteger ⟨digits, none, none⟩ = true := rfl
  rw [numberValue, if_pos integer, DecimalLiteral.toNat, tooLong]

/-- An overlong integer is not read. -/
theorem unsignedNumber_of_isOverlong (overlong : IsOverlong digits)
    (spanned : span s = (digits, rest)) (whole : fractionPart span rest = (none, rest))
    (plain : exponentPart span rest = (none, rest)) :
    unsignedNumber span false s = .error (.numeral (.reading digits.length)) := by
  simp only [unsignedNumber, integerPart?_of_isOverlong overlong spanned, whole, plain,
    numberValue_of_isOverlong overlong]
  rfl

/-- No word begins with a digit, so a number is read. -/
theorem wordOrNumber_of_isDigit (digit : c.isDigit = true)
    (wordy : ∀ w ∈ words, w.1.toList.head?.any (fun first => !first.isDigit) = true) :
    wordOrNumber words bare (c :: s) = bare (c :: s) := by
  have none : words.findSome?
      (fun w => (literalWord? w.1 (c :: s)).map (fun rest => (w.2, rest))) = none := by
    rw [List.findSome?_eq_none_iff]
    intro w member
    have notPrefix : w.1.toList.isPrefixOf (c :: s) = false := by
      have starts := wordy w member
      cases letters : w.1.toList with
      | nil => simp [letters] at starts
      | cons first others =>
        have other : first.isDigit = false := by simpa [letters] using starts
        have differs : (first == c) = false := beq_false_of_ne (ne_of_isDigit digit other).symm
        rw [List.isPrefixOf, differs, Bool.false_and]
    rw [literalWord?, notPrefix]
    rfl
  rw [wordOrNumber, none]

/-! ### Mappings -/

/-- What begins with a digit is read as a bare word. -/
theorem value_of_isDigit (digit : c.isDigit = true) :
    value dialect number (fuel + 1) (c :: s) = dialect.word (c :: s) := by
  unfold value
  split
  · next same =>
    cases same
    cases digit
  · next same =>
    cases same
    cases digit
  · next same =>
    cases same
    cases digit
  · rfl

theorem skipSpace_of_isDigit (digit : c.isDigit = true) : skipSpace (' ' :: c :: s) = c :: s := by
  have notSpace : isSpace c = false := by
    simp only [isSpace, Bool.or_eq_false_iff, beq_eq_false_iff_ne]
    exact ⟨⟨⟨ne_of_isDigit digit rfl, ne_of_isDigit digit rfl⟩, ne_of_isDigit digit rfl⟩,
      ne_of_isDigit digit rfl⟩
  have stays : ¬isSpace c = true := Bool.eq_false_iff.mp notSpace
  exact List.dropWhile_cons_of_neg stays

/-- The only key of the mapping is read, and then its value. -/
theorem key_of_isDigit (digit : c.isDigit = true) :
    key ('\x22' :: 'a' :: '\x22' :: ':' :: ' ' :: c :: s) = .ok ("a", c :: s) := by
  have upToValue : key ('\x22' :: 'a' :: '\x22' :: ':' :: ' ' :: c :: s) =
      .ok ("a", skipSpace (' ' :: c :: s)) := rfl
  rw [upToValue, skipSpace_of_isDigit digit]

/-- The whole document is the mapping. -/
theorem read_mappingOf :
    read dialect number (String.ofList (mappingOf digits)) =
      (do
        let (v, rest) ← value dialect number (2 * (mappingOf digits).tail.length + 4)
          (mappingOf digits)
        if (skipSpace rest).isEmpty then return v else .error .malformed) := by
  rw [read, String.toList_ofList]
  rfl

/-- The mapping has its entries inside. -/
theorem value_mappingOf :
    value dialect number (fuel + 1) (mappingOf digits) =
      (do
        let (es, rest) ← entries dialect number fuel (mappingOf digits).tail
        return (.mapping (.read number (mappingOf digits).tail.length) (Record.ofEntries es),
          rest)) := rfl

/-- A mapping fails as its only value does. -/
theorem read_mappingOf_of_error (overlong : IsOverlong digits)
    (refused : dialect.word (digits ++ ['\x7d']) = .error error) :
    read dialect number (String.ofList (mappingOf digits)) = .error error := by
  obtain ⟨c, others, rfl, digit, _⟩ := overlong.exists_cons
  have inside (fuel : Nat) : entries dialect number (fuel + 2) (mappingOf (c :: others)).tail =
      .error error := by
    rw [mappingOf, List.tail_cons, entries, List.cons_append, key_of_isDigit digit]
    change value dialect number (fuel + 1) _ >>= _ = _
    rw [value_of_isDigit digit, ← List.cons_append, refused]
    rfl
  rw [read_mappingOf, value_mappingOf, inside]
  rfl

/-- A mapping is read as soon as its only value is. -/
theorem read_mappingOf_of_ok (digit : c.isDigit = true)
    (known : dialect.word (c :: (s ++ ['\x7d'])) = .ok (v, ['\x7d'])) :
    read dialect number (String.ofList (mappingOf (c :: s))) =
      .ok (.mapping (.read number (mappingOf (c :: s)).tail.length) [("a", v)]) := by
  have inside (fuel : Nat) : entries dialect number (fuel + 2) (mappingOf (c :: s)).tail =
      .ok ([("a", v)], []) := by
    rw [mappingOf, List.tail_cons, entries, List.cons_append, key_of_isDigit digit]
    change value dialect number (fuel + 1) _ >>= _ = _
    rw [value_of_isDigit digit, known]
    rfl
  rw [read_mappingOf, value_mappingOf, inside]
  rfl

/-! ### The dialects -/

/-- A number ends where the mapping does. -/
theorem spanAsciiDigits_brace (overlong : IsOverlong digits) :
    spanAsciiDigits (digits ++ ['\x7d']) = (digits, ['\x7d']) :=
  spanAsciiDigits_append overlong.isDigit rfl

theorem read_strict_of_isOverlong (overlong : IsOverlong digits) :
    read strict number (String.ofList (mappingOf digits)) =
      .error (.numeral (.reading digits.length)) := by
  refine read_mappingOf_of_error overlong ?_
  have refused := unsignedNumber_of_isOverlong overlong (spanAsciiDigits_brace overlong) rfl rfl
  obtain ⟨c, others, rfl, digit, _⟩ := overlong.exists_cons
  change wordOrNumber strictWords Document.number _ = _
  rw [List.cons_append, wordOrNumber_of_isDigit digit (by decide), ← refused]
  unfold Document.number
  split
  · next same =>
    cases same
    cases digit
  · rfl

/-- A digit does not end a word. -/
theorem endsWord_of_isDigit (digit : c.isDigit = true) : endsWord c = false := by
  have differs {mark : Char} : mark.isDigit = false → c ≠ mark := ne_of_isDigit digit
  simp [endsWord, isSpace, differs]

/-- The bare word of the mapping is the integer. -/
theorem looseBy_word (overlong : IsOverlong digits)
    {meaning : List Char → Except DocumentFault Value} :
    (looseBy meaning).word (digits ++ ['\x7d']) =
      (meaning digits).map (fun v => (v, ['\x7d'])) := by
  have word : (digits ++ ['\x7d']).takeWhile (fun c => !endsWord c) = digits := by
    rw [List.takeWhile_append_of_pos (fun c member => by
      rw [endsWord_of_isDigit (overlong.isDigit c member)]; rfl)]
    exact List.append_nil digits
  have filled : digits.isEmpty = false := by
    obtain ⟨c, others, rfl, _⟩ := overlong.exists_cons
    rfl
  unfold looseBy
  dsimp only
  rw [word, filled, if_neg Bool.false_ne_true, List.drop_left]

theorem looseWord_of_isOverlong (overlong : IsOverlong digits) :
    looseWord digits = .error (.numeral (.reading digits.length)) := by
  have spanned : spanAsciiDigits (digits ++ []) = (digits, []) :=
    spanAsciiDigits_append overlong.isDigit rfl
  rw [List.append_nil] at spanned
  have refused : looseNumber? false digits =
      some (.error (.numeral (.reading digits.length))) := by
    rw [looseNumber?, integerPart?_of_isOverlong overlong spanned]
    exact congrArg some (numberValue_of_isOverlong overlong)
  obtain ⟨c, others, rfl, digit, _⟩ := overlong.exists_cons
  have noWord {word : List Char} (wordy : word.head?.all (fun first => !first.isDigit) = true) :
      c :: others ≠ word := by
    rintro rfl
    simp [digit] at wordy
  rw [looseWord, if_neg (noWord rfl), if_neg (noWord rfl), if_neg (noWord rfl)]
  · rw [refused]
    rfl
  · exact fun _ => noWord rfl

theorem readLoose_of_isOverlong (overlong : IsOverlong digits) :
    readLoose number (String.ofList (mappingOf digits)) =
      .error (.numeral (.reading digits.length)) := by
  have refused : read (looseBy looseWord) number (String.ofList (mappingOf digits)) =
      .error (.numeral (.reading digits.length)) := by
    refine read_mappingOf_of_error overlong ((looseBy_word overlong).trans ?_)
    rw [looseWord_of_isOverlong overlong]
    rfl
  have word : (looseBy fun _ => .ok .null).word (digits ++ ['\x7d']) = .ok (.null, ['\x7d']) :=
    looseBy_word overlong
  obtain ⟨c, others, rfl, digit, _⟩ := overlong.exists_cons
  -- the shape is read first, in which every word has a meaning
  rw [readLoose, read_mappingOf_of_ok digit word]
  exact refused

/-! ### Settings -/

/-- Digits are taken whole, marks between them or not. -/
theorem spanAfterDigit_of_isDigit {isDigit : Char → Bool} (noMark : isDigit '_' = false)
    (all : ∀ c ∈ digits, isDigit c = true) :
    Sections.spanAfterDigit isDigit digits = (digits, []) := by
  induction digits with
  | nil => rfl
  | cons c digits ih =>
    have digit := all c List.mem_cons_self
    have plain (d : Char) (s : List Char) (mark : c = '_') (_ : digits = d :: s) : False := by
      rw [mark, noMark] at digit
      cases digit
    rw [Sections.spanAfterDigit.eq_3 _ _ _ plain, if_pos digit,
      ih (fun d member => all d (List.mem_cons_of_mem c member))]

theorem spanMarkedDigits_of_isOverlong (overlong : IsOverlong digits) :
    Sections.spanMarkedDigits Char.isDigit digits = (digits, []) := by
  obtain ⟨c, others, rfl, digit, _⟩ := overlong.exists_cons
  have behind : ∀ d ∈ others, d.isDigit = true :=
    fun d member => overlong.isDigit d (List.mem_cons_of_mem c member)
  rw [Sections.spanMarkedDigits, if_pos digit, spanAfterDigit_of_isDigit rfl behind]

/-- An overlong integer in decimal names no base and has no sign. -/
theorem number_of_isOverlong (overlong : IsOverlong digits) :
    Sections.number digits = .error (.numeral (.reading digits.length)) := by
  have refused := unsignedNumber_of_isOverlong overlong (spanMarkedDigits_of_isOverlong overlong)
    rfl rfl
  obtain ⟨c, others, rfl, digit, notZero⟩ := overlong.exists_cons
  have noBase : Sections.inNamedBase? (c :: others) = none := by
    unfold Sections.inNamedBase?
    split
    · next same =>
      cases same
      exact absurd rfl notZero
    · rfl
  have unsigned : Sections.decimalNumber (c :: others) =
      unsignedNumber (Sections.spanMarkedDigits Char.isDigit) false (c :: others) := by
    unfold Sections.decimalNumber
    split
    · next same =>
      cases same
      cases digit
    · next same =>
      cases same
      cases digit
    · rfl
  rw [Sections.number, noBase]
  exact unsigned.trans refused

theorem value_sections_of_isDigit (digit : c.isDigit = true) :
    Sections.value (fuel + 1) (c :: s) = wordOrNumber Sections.words Sections.number (c :: s) := by
  unfold Sections.value
  split
  · next same =>
    cases same
    cases digit
  · next same =>
    cases same
    cases digit
  · next same =>
    cases same
    cases digit
  · rfl

theorem label_settingLine (digit : c.isDigit = true) :
    Sections.label (settingLine (c :: s)) = .ok ("max_expression_length", c :: s) := by
  have notBlank : ¬Sections.isBlank c = true := by
    simp [Sections.isBlank, ne_of_isDigit digit]
  have value : Sections.skipBlanks (' ' :: c :: s) = c :: s := List.dropWhile_cons_of_neg notBlank
  have upToValue : Sections.label (settingLine (c :: s)) =
      .ok ("max_expression_length", Sections.skipBlanks (' ' :: c :: s)) := rfl
  rw [upToValue, value]

/-- A setting fails as its value does. -/
theorem line_of_isOverlong {p : Sections.Progress} (overlong : IsOverlong digits) :
    Sections.line p (settingLine digits) = .error (.numeral (.reading digits.length)) := by
  have refused := number_of_isOverlong overlong
  obtain ⟨c, others, rfl, digit, _⟩ := overlong.exists_cons
  change Sections.label (settingLine (c :: others)) >>= _ = _
  rw [label_settingLine digit]
  change Sections.value (2 * (c :: others).length + 1 + 1) (c :: others) >>= _ = _
  rw [value_sections_of_isDigit digit, wordOrNumber_of_isDigit digit (by decide), refused]
  rfl

/-- A line that is read is followed by the next. -/
theorem lines_of_ok {p p' : Sections.Progress} {s rest after : List Char} (more : s ≠ [])
    (known : Sections.line p s = .ok (p', rest)) (ends : Sections.endOfLine rest = .ok after) :
    Sections.lines (fuel + 1) p s = Sections.lines fuel p' after := by
  rw [Sections.lines.eq_3 _ _ _ more, known]
  change Sections.endOfLine rest >>= _ = _
  rw [ends]
  rfl

/-- A document fails with its first line that does. -/
theorem lines_of_error {p : Sections.Progress} {s : List Char} (more : s ≠ [])
    (refused : Sections.line p s = .error error) :
    Sections.lines (fuel + 1) p s = .error error := by
  rw [Sections.lines.eq_3 _ _ _ more, refused]
  rfl

theorem read_settingsFileOf (overlong : IsOverlong digits) :
    Sections.read (String.ofList (settingsFileOf digits)) =
      .error (.numeral (.reading digits.length)) := by
  let opened : Sections.Progress :=
    { contents := [("engine", .mapping (.read 1 0) [])], open? := some "engine" }
  have heading : Sections.line {} (settingsFileOf digits) =
      .ok (opened, '\n' :: settingLine digits) := rfl
  have ends : Sections.endOfLine ('\n' :: settingLine digits) = .ok (settingLine digits) := rfl
  have more : settingsFileOf digits ≠ [] := List.cons_ne_nil _ _
  have moreSettings : settingLine digits ≠ [] := List.cons_ne_nil _ _
  obtain ⟨fuel, enough⟩ : ∃ fuel, (settingsFileOf digits).length = fuel + 1 := ⟨_, rfl⟩
  have refused : Sections.lines (fuel + 2) {} (settingsFileOf digits) =
      .error (.numeral (.reading digits.length)) := by
    rw [lines_of_ok more heading ends]
    exact lines_of_error moreSettings (line_of_isOverlong overlong)
  rw [Sections.read, String.toList_ofList, String.length_ofList, enough, refused]
  rfl

end FormEngine.Document
