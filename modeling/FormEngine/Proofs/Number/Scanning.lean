/-
  FormEngine/Proofs/Number/Scanning.lean
  ======================================
  **Decimal literals are what their scanner finds.**

  `IsWritten` says what a decimal literal looks like, part by part.  The scanner
  finds nothing else (`isWritten_of_scan`), and it finds every such literal in front
  of a text that does not go on with it (`scan_chars_append`).
-/
import FormEngine.Number.Literal

namespace FormEngine

/-- A letter, perhaps a sign, and at least one digit. -/
structure LiteralExponent.IsWritten (e : LiteralExponent) : Prop where
  letter : e.letter = 'e' ∨ e.letter = 'E'
  sign : e.sign = [] ∨ e.sign = ['+'] ∨ e.sign = ['-']
  digits : ∀ c ∈ e.digits, Text.isDecimalDigit c = true
  digits_ne : e.digits ≠ []

/-- Digits, perhaps a point with digits, at least one digit in all, and perhaps an exponent. -/
structure DecimalLiteral.IsWritten (l : DecimalLiteral) : Prop where
  whole : ∀ c ∈ l.whole, Text.isDecimalDigit c = true
  fraction : ∀ ds, l.fraction = some ds → ∀ c ∈ ds, Text.isDecimalDigit c = true
  digits_ne : l.whole = [] → l.fraction.getD [] ≠ []
  exponent : ∀ e, l.exponent = some e → e.IsWritten

namespace DecimalLiteral

variable {s rest ds : List Char} {l : DecimalLiteral}

/-- The text does not go on with digits. -/
def EndsDigits (rest : List Char) : Prop :=
  ∀ c s, rest = c :: s → Text.isDecimalDigit c = false

/-- The text goes on neither with digits nor with an exponent. -/
def EndsDecimal (rest : List Char) : Prop :=
  ∀ c s, rest = c :: s → Text.isDecimalDigit c = false ∧ c ≠ 'e' ∧ c ≠ 'E'

/-- The text does not go on with a literal. -/
def EndsLiteral (rest : List Char) : Prop :=
  ∀ c s, rest = c :: s → Text.isDecimalDigit c = false ∧ c ≠ '.' ∧ c ≠ 'e' ∧ c ≠ 'E'

theorem EndsDecimal.digits (ends : EndsDecimal rest) : EndsDigits rest :=
  fun c s same => (ends c s same).1

theorem EndsLiteral.decimal (ends : EndsLiteral rest) : EndsDecimal rest :=
  fun c s same => ⟨(ends c s same).1, (ends c s same).2.2⟩

theorem endsLiteral_nil : EndsLiteral [] := by
  intro c s same
  cases same

theorem isDecimalDigit_point : Text.isDecimalDigit '.' = false := by decide

theorem isDecimalDigit_exponentLetter {c : Char} (h : c = 'e' ∨ c = 'E') :
    Text.isDecimalDigit c = false := by
  rcases h with rfl | rfl <;> decide

/-! ### Digits and exponents -/

theorem isDecimalDigit_of_mem_spanDigits {c : Char} (member : c ∈ (spanDigits s).1) :
    Text.isDecimalDigit c = true :=
  List.all_eq_true.mp (List.all_takeWhile (p := Text.isDecimalDigit)) c member

theorem spanDigits_digits_append (digits : ∀ c ∈ ds, Text.isDecimalDigit c = true)
    (ends : EndsDigits rest) : spanDigits (ds ++ rest) = (ds, rest) := by
  unfold spanDigits
  rw [List.takeWhile_append_of_pos digits, List.dropWhile_append_of_pos digits]
  cases rest with
  | nil => simp
  | cons c s =>
    have noDigit := ends c s rfl
    simp [noDigit]

theorem scanExponent_of_ends (ends : EndsDecimal rest) : scanExponent rest = (none, rest) := by
  cases rest with
  | nil => rfl
  | cons c s =>
    obtain ⟨_, notSmall, notCapital⟩ := ends c s rfl
    simp [scanExponent, notSmall, notCapital]

theorem spanSign_of_no_sign (plain : ∀ c t, s = c :: t → c ≠ '+' ∧ c ≠ '-') :
    spanSign s = ([], s) := by
  cases s with
  | nil => rfl
  | cons c t =>
    obtain ⟨notPlus, notMinus⟩ := plain c t rfl
    simp [spanSign, notPlus, notMinus]

/-- A sign is told from a text behind it that begins with none. -/
theorem spanSign_signed {sign : List Char} (isSign : sign = [] ∨ sign = ['+'] ∨ sign = ['-'])
    (plain : ∀ c t, s = c :: t → c ≠ '+' ∧ c ≠ '-') : spanSign (sign ++ s) = (sign, s) := by
  rcases isSign with rfl | rfl | rfl
  · exact spanSign_of_no_sign plain
  · simp [spanSign]
  · simp [spanSign]

theorem spanSign_append_of_digits {sign : List Char}
    (isSign : sign = [] ∨ sign = ['+'] ∨ sign = ['-'])
    (digits : ∀ c ∈ ds, Text.isDecimalDigit c = true) (ne : ds ≠ []) (rest : List Char) :
    spanSign (sign ++ (ds ++ rest)) = (sign, ds ++ rest) := by
  apply spanSign_signed isSign
  intro c t same
  cases ds with
  | nil => exact absurd rfl ne
  | cons d ds =>
    cases same
    have digit := digits c List.mem_cons_self
    constructor
    · rintro rfl
      cases digit
    · rintro rfl
      cases digit

theorem scanExponent_chars_append {e : LiteralExponent} (written : e.IsWritten)
    (ends : EndsDecimal rest) : scanExponent (e.chars ++ rest) = (some e, rest) := by
  have split : e.chars ++ rest = e.letter :: (e.sign ++ (e.digits ++ rest)) := by
    simp [LiteralExponent.chars]
  have sign := spanSign_append_of_digits written.sign written.digits written.digits_ne rest
  have digits := spanDigits_digits_append written.digits ends.digits
  have some : e.digits.isEmpty = false := by
    simpa using written.digits_ne
  rw [split]
  simp [scanExponent, written.letter, sign, digits, some]

theorem isWritten_of_scanExponent {e : LiteralExponent} (h : scanExponent s = (some e, rest)) :
    e.IsWritten := by
  cases s with
  | nil => cases h
  | cons c s =>
    rw [scanExponent] at h
    split at h
    · next letter =>
      dsimp only at h
      split at h
      · cases h
      · next some =>
        cases h
        refine ⟨letter, ?_, fun d => isDecimalDigit_of_mem_spanDigits, by simpa using some⟩
        cases s with
        | nil => exact Or.inl rfl
        | cons d s =>
          by_cases sign : d = '+' ∨ d = '-'
          · rcases sign with rfl | rfl <;> simp [spanSign]
          · simp [spanSign, sign]
    · cases h

/-! ### Literals -/

theorem isWritten_of_scan (h : scan s = some (l, rest)) : l.IsWritten := by
  have whole : ∀ c ∈ (spanDigits s).1, Text.isDecimalDigit c = true :=
    fun c => isDecimalDigit_of_mem_spanDigits
  unfold scan at h
  generalize spanDigits s = parts at h whole
  obtain ⟨digits, afterWhole⟩ := parts
  dsimp only at h whole
  split at h
  · next afterPoint =>
    split at h
    · cases h
    · next some =>
      cases h
      refine ⟨whole, ?_, ?_, fun e same => isWritten_of_scanExponent (Prod.ext same rfl)⟩
      · intro ds same c member
        cases same
        exact isDecimalDigit_of_mem_spanDigits member
      · intro none empty
        simp_all
  · split at h
    · cases h
    · next some =>
      cases h
      refine ⟨whole, ?_, ?_, fun e same => isWritten_of_scanExponent (Prod.ext same rfl)⟩
      · intro ds same
        cases same
      · intro none
        simp_all

/-- Digits alone are a literal. -/
theorem isWritten_digits (digits : ∀ c ∈ ds, Text.isDecimalDigit c = true) (ne : ds ≠ []) :
    IsWritten ⟨ds, none, none⟩ := by
  refine ⟨digits, ?_, fun empty => absurd empty ne, ?_⟩
  · intro fraction same
    cases same
  · intro e same
    cases same

theorem chars_digits (ds : List Char) : chars ⟨ds, none, none⟩ = ds := by
  simp [chars]

/-- A literal begins with a digit or a point. -/
theorem IsWritten.exists_cons (written : l.IsWritten) :
    ∃ c t, l.chars = c :: t ∧ (Text.isDecimalDigit c = true ∨ c = '.') := by
  obtain ⟨whole, fraction, exponent⟩ := l
  cases whole with
  | cons c whole => exact ⟨c, _, rfl, Or.inl (written.whole c List.mem_cons_self)⟩
  | nil =>
    cases fraction with
    | none => exact absurd rfl (written.digits_ne rfl)
    | some ds => exact ⟨'.', _, rfl, Or.inr rfl⟩

theorem IsWritten.spanSign_signed (written : l.IsWritten) {sign : List Char}
    (isSign : sign = [] ∨ sign = ['+'] ∨ sign = ['-']) (rest : List Char) :
    spanSign (sign ++ (l.chars ++ rest)) = (sign, l.chars ++ rest) := by
  apply DecimalLiteral.spanSign_signed isSign
  intro c t same
  obtain ⟨d, u, split, digit | rfl⟩ := written.exists_cons
  · rw [split] at same
    cases same
    constructor
    · rintro rfl
      cases digit
    · rintro rfl
      cases digit
  · rw [split] at same
    cases same
    decide

theorem IsWritten.chars_ne_nil (written : l.IsWritten) : l.chars ≠ [] := by
  obtain ⟨c, t, split, _⟩ := written.exists_cons
  rw [split]
  exact List.cons_ne_nil c t

/-- A literal holds digits, a point, the letter of an exponent and its sign. -/
theorem IsWritten.mem_chars (written : l.IsWritten) {c : Char} (member : c ∈ l.chars) :
    Text.isDecimalDigit c = true ∨ c ∈ ['.', 'e', 'E', '+', '-'] := by
  obtain ⟨whole, fraction, exponent⟩ := l
  simp only [chars, List.mem_append] at member
  rcases member with (inWhole | inFraction) | inExponent
  · exact Or.inl (written.whole c inWhole)
  · cases fraction with
    | none => cases inFraction
    | some ds =>
      rcases List.mem_cons.mp inFraction with rfl | digit
      · exact Or.inr List.mem_cons_self
      · exact Or.inl (written.fraction ds rfl c digit)
  · cases exponent with
    | none => cases inExponent
    | some e =>
      obtain ⟨letter, sign, digits, _⟩ := written.exponent e rfl
      simp only [Option.elim_some, LiteralExponent.chars, List.cons_append, List.mem_cons,
        List.mem_append] at inExponent
      rcases inExponent with rfl | inSign | inDigits
      · rcases letter with letter | letter <;> simp [letter]
      · rcases sign with sign | sign | sign <;> simp_all
      · exact Or.inl (digits c inDigits)

/-- What stands behind the digits of a literal ends them. -/
theorem endsDigits_exponent (exponent : ∀ e, l.exponent = some e → e.IsWritten)
    (ends : EndsDecimal rest) :
    EndsDigits (l.exponent.elim [] LiteralExponent.chars ++ rest) := by
  cases found : l.exponent with
  | none => exact ends.digits
  | some e =>
    intro c s same
    have first : e.letter = c := (List.cons.inj same).1
    rw [← first]
    exact isDecimalDigit_exponentLetter (exponent e found).letter

theorem scanExponent_append_of_isWritten (exponent : ∀ e, l.exponent = some e → e.IsWritten)
    (ends : EndsDecimal rest) :
    scanExponent (l.exponent.elim [] LiteralExponent.chars ++ rest) = (l.exponent, rest) := by
  cases found : l.exponent with
  | none => exact scanExponent_of_ends ends
  | some e => exact scanExponent_chars_append (exponent e found) ends

/-- Every literal is found in front of what does not go on with it.  A point goes on with an
    integer only. -/
theorem scan_decimal_append (written : l.IsWritten) (ends : EndsDecimal rest)
    (noPoint : l.isInteger = true → ∀ s, rest ≠ '.' :: s) :
    scan (l.chars ++ rest) = some (l, rest) := by
  obtain ⟨whole, fraction, exponent⟩ := l
  have exponentFound := scanExponent_append_of_isWritten written.exponent ends
  have behind := endsDigits_exponent written.exponent ends
  dsimp only at exponentFound behind
  generalize tail : exponent.elim [] LiteralExponent.chars ++ rest = after at exponentFound behind
  cases fraction with
  | none =>
    have split : chars ⟨whole, none, exponent⟩ ++ rest = whole ++ after := by
      simp [chars, ← tail]
    have digits := spanDigits_digits_append written.whole behind
    have some : whole.isEmpty = false := by
      cases whole with
      | nil => exact absurd rfl (written.digits_ne rfl)
      | cons c ds => rfl
    have noPoint : ∀ afterPoint, after ≠ '.' :: afterPoint := by
      rintro afterPoint rfl
      cases exponent with
      | none => exact noPoint rfl afterPoint tail
      | some e =>
        have first : e.letter = '.' := (List.cons.inj tail).1
        have letter := (written.exponent e rfl).letter
        rw [first] at letter
        revert letter
        decide
    rw [split, scan, digits]
    dsimp only
    split
    · next afterPoint => exact absurd rfl (noPoint afterPoint)
    · simp [some, exponentFound]
  | some ds =>
    have split : chars ⟨whole, some ds, exponent⟩ ++ rest = whole ++ '.' :: (ds ++ after) := by
      simp [chars, ← tail]
    have atPoint : EndsDigits ('.' :: (ds ++ after)) := by
      intro c s same
      rw [← (List.cons.inj same).1]
      exact isDecimalDigit_point
    have digits := spanDigits_digits_append written.whole atPoint
    have fractionDigits := spanDigits_digits_append (written.fraction ds rfl) behind
    have some : (whole.isEmpty && ds.isEmpty) = false := by
      cases whole with
      | nil => simpa using written.digits_ne rfl
      | cons c whole => rfl
    rw [split, scan, digits]
    simp [fractionDigits, some, exponentFound]

theorem scan_chars_append (written : l.IsWritten) (ends : EndsLiteral rest) :
    scan (l.chars ++ rest) = some (l, rest) :=
  scan_decimal_append written ends.decimal (fun _ s same => (ends '.' s same).2.1 rfl)

/-! ### In front of what no literal goes on with -/

/-- The text goes on neither with a literal nor with the sign of an exponent. -/
def EndsScan (rest : List Char) : Prop :=
  ∀ c s, rest = c :: s → Text.isDecimalDigit c = false ∧ c ∉ ['.', 'e', 'E', '+', '-']

theorem EndsScan.digits (ends : EndsScan rest) : EndsDigits rest :=
  fun c s same => (ends c s same).1

theorem spanDigits_append_of_ends (ends : EndsDigits rest) (s : List Char) :
    spanDigits (s ++ rest) = ((spanDigits s).1, (spanDigits s).2 ++ rest) := by
  induction s with
  | nil =>
    cases rest with
    | nil => rfl
    | cons c s =>
      have noDigit := ends c s rfl
      simp [spanDigits, noDigit]
  | cons c s ih =>
    by_cases digit : Text.isDecimalDigit c = true
    · simp_all [spanDigits]
    · simp [spanDigits, digit]

theorem spanSign_append_of_ends (ends : EndsScan rest) (s : List Char) :
    spanSign (s ++ rest) = ((spanSign s).1, (spanSign s).2 ++ rest) := by
  cases s with
  | nil =>
    cases rest with
    | nil => rfl
    | cons c s =>
      have noSign := (ends c s rfl).2
      simp_all [spanSign]
  | cons c s => by_cases sign : c = '+' ∨ c = '-' <;> simp [spanSign, sign]

theorem scanExponent_append_of_ends (ends : EndsScan rest) (s : List Char) :
    scanExponent (s ++ rest) = ((scanExponent s).1, (scanExponent s).2 ++ rest) := by
  cases s with
  | nil =>
    cases rest with
    | nil => rfl
    | cons c s =>
      have noLetter := (ends c s rfl).2
      simp_all [scanExponent]
  | cons c s =>
    rw [List.cons_append, scanExponent, scanExponent, spanSign_append_of_ends ends]
    dsimp only
    rw [spanDigits_append_of_ends ends.digits]
    dsimp only
    split
    · split
      · rfl
      · rfl
    · rfl

theorem scan_of_point {whole afterPoint : List Char}
    (digits : spanDigits s = (whole, '.' :: afterPoint)) :
    scan s = if whole.isEmpty && (spanDigits afterPoint).1.isEmpty then none
      else some (⟨whole, some (spanDigits afterPoint).1,
        (scanExponent (spanDigits afterPoint).2).1⟩, (scanExponent (spanDigits afterPoint).2).2) := by
  rw [scan, digits]
  rfl

theorem scan_of_no_point {whole afterWhole : List Char} (digits : spanDigits s = (whole, afterWhole))
    (noPoint : ∀ afterPoint, afterWhole ≠ '.' :: afterPoint) :
    scan s = if whole.isEmpty then none
      else some (⟨whole, none, (scanExponent afterWhole).1⟩, (scanExponent afterWhole).2) := by
  rw [scan, digits]
  dsimp only
  split
  · next afterPoint => exact absurd rfl (noPoint afterPoint)
  · rfl

/-- The scanner does not look beyond what no literal goes on with. -/
theorem scan_append_of_ends (ends : EndsScan rest) (s : List Char) :
    scan (s ++ rest) = (scan s).map (fun found => (found.1, found.2 ++ rest)) := by
  have longer := spanDigits_append_of_ends ends.digits s
  cases digits : spanDigits s with
  | mk whole afterWhole =>
    rw [digits] at longer
    by_cases pointed : ∃ afterPoint, afterWhole = '.' :: afterPoint
    · obtain ⟨afterPoint, rfl⟩ := pointed
      dsimp only [List.cons_append] at longer
      rw [scan_of_point longer, scan_of_point digits, spanDigits_append_of_ends ends.digits,
        scanExponent_append_of_ends ends, apply_ite (Option.map _)]
      rfl
    · have noPoint : ∀ afterPoint, afterWhole ++ rest ≠ '.' :: afterPoint := by
        intro afterPoint same
        cases afterWhole with
        | nil => exact (ends '.' afterPoint same).2 (by decide)
        | cons c s =>
          have first : c = '.' := (List.cons.inj same).1
          exact pointed ⟨s, by rw [first]⟩
      rw [scan_of_no_point longer noPoint,
        scan_of_no_point digits (fun afterPoint same => pointed ⟨afterPoint, same⟩),
        scanExponent_append_of_ends ends, apply_ite (Option.map _)]
      rfl

/-- The characters of a literal are this literal as a whole text. -/
theorem IsWritten.ofText?_chars (written : l.IsWritten) : ofText? l.chars = some l := by
  have found := scan_chars_append written endsLiteral_nil
  rw [List.append_nil] at found
  rw [ofText?, found]

/-- The text that was scanned is a literal by itself. -/
theorem ofText?_chars_of_scan (h : scan s = some (l, rest)) : ofText? l.chars = some l :=
  (isWritten_of_scan h).ofText?_chars

end DecimalLiteral

end FormEngine
