/-
  FormEngine/Proofs/Expression/Spoiling.lean
  ==========================================
  **Texts that no expression has.**

  Three things in the text of a tree keep it from being read at all: a line break in a
  text literal, two equal signs in a row, which are an update operator, and a point
  behind an integer before a name that is no exponent.  `Spoils` says of a text that
  its tokens, if it has any, include an update operator; no expression does, and what
  stands before such a text does not help.
-/
import FormEngine.Proofs.Expression.Rereading

namespace FormEngine

namespace Lexer

variable {c : Char} {s rest : List Char} {p : Nat}

/-- If the text has tokens at all, there is an update operator among them. -/
def Spoils (s : List Char) : Prop :=
  ∀ p ts, tokensFrom s p = .ok ts → ∃ t ∈ ts, t.kind = .update

/-! ### What stands before -/

theorem spoils_of_reads (reads : ∀ p, ∃ ts q, Reads s p ts rest q) (spoils : Spoils rest) :
    Spoils s := by
  intro p ts found
  obtain ⟨before, q, read⟩ := reads p
  rw [read] at found
  cases later : tokensFrom rest q with
  | error e =>
    rw [later] at found
    cases found
  | ok after =>
    rw [later] at found
    cases found
    obtain ⟨t, member, isUpdate⟩ := spoils q after later
    exact ⟨t, List.mem_append_right before member, isUpdate⟩

theorem Takes.spoils {kind : TokenKind} (takes : Takes kind s rest) (spoils : Spoils rest) :
    Spoils s := by
  refine spoils_of_reads (fun p => ?_) spoils
  obtain ⟨t, q, _, read⟩ := takes p
  exact ⟨[t], q, read⟩

theorem spoils_blank (spoils : Spoils s) : Spoils (' ' :: s) :=
  spoils_of_reads (fun p => ⟨[], p + 1, reads_blank rfl⟩) spoils

theorem spoils_of_lexeme (notBlank : Text.isBlank c = false)
    (failed : ∀ p, ∃ e, lexeme c s p = .error e) : Spoils (c :: s) := by
  intro p ts found
  obtain ⟨e, failed⟩ := failed p
  rw [tokensFrom, if_neg (by rw [notBlank]; decide), failed] at found
  cases found

/-! ### Line breaks -/

/-- A line break in the content is met before the closing quote. -/
theorem stringBody_of_lineBreak (start : Nat) (rest : List Char) (lineBreak : '\n' ∈ s) :
    ∃ e, stringBody '\x22' start (escapeLiteral s ++ '\x22' :: rest) p = .error e := by
  induction s generalizing p with
  | nil => cases lineBreak
  | cons c s ih =>
    by_cases escaped : c = '\\' ∨ c = '\x22'
    · have later : '\n' ∈ s := by
        rcases List.mem_cons.mp lineBreak with rfl | later
        · exact absurd escaped (by decide)
        · exact later
      obtain ⟨e, failed⟩ := ih (p := p + 2) later
      refine ⟨e, ?_⟩
      simp [escapeLiteral, escaped, stringBody, failed, bind, Except.bind]
    · obtain ⟨notBackslash, notQuote⟩ := not_or.mp escaped
      by_cases isBreak : c = '\n'
      · simp [escapeLiteral, stringBody, isBreak]
      · have later : '\n' ∈ s := (List.mem_cons.mp lineBreak).resolve_left (Ne.symm isBreak)
        obtain ⟨e, failed⟩ := ih (p := p + 1) later
        refine ⟨e, ?_⟩
        simp [escapeLiteral, stringBody, notBackslash, notQuote, isBreak, failed, bind, Except.bind]

theorem spoils_lineBreak {content : String} (lineBreak : '\n' ∈ content.toList)
    (rest : List Char) : Spoils ((Literal.text content).render.toList ++ rest) := by
  have split : (Literal.text content).render.toList ++ rest =
      '\x22' :: (escapeLiteral content.toList ++ '\x22' :: rest) := by
    simp [Literal.render]
  rw [split]
  refine spoils_of_lexeme rfl (fun p => ?_)
  obtain ⟨e, failed⟩ := stringBody_of_lineBreak (p := p + 1) p rest lineBreak
  exact ⟨e, by simp [lexeme, failed, bind, Except.bind]⟩

/-! ### Two equal signs -/

theorem spoils_update {sign : Char} (isSign : sign = '-' ∨ sign = '+') (rest : List Char) :
    Spoils (sign :: sign :: rest) := by
  have takes : Takes .update (sign :: ([sign] ++ rest)) rest := by
    rcases isSign with rfl | rfl
    · exact takes_of_lexeme (l := ⟨.update, "--", 2⟩) rfl (fun p => rfl) rfl
    · exact takes_of_lexeme (l := ⟨.update, "++", 2⟩) rfl (fun p => rfl) rfl
  intro p ts found
  obtain ⟨t, q, isUpdate, read⟩ := takes p
  rw [List.singleton_append] at read
  rw [read] at found
  cases later : tokensFrom rest q with
  | error e =>
    rw [later] at found
    cases found
  | ok after =>
    rw [later] at found
    cases found
    exact ⟨t, List.mem_cons_self, isUpdate⟩

/-! ### Points behind integers -/

/-- Up to the Arabic digits there are no other digits than those of ASCII. -/
theorem isDecimalDigit_iff (low : c.toNat < 0x660) :
    Text.isDecimalDigit c = true ↔ 48 ≤ c.toNat ∧ c.toNat ≤ 57 := by
  have zeros : ∀ z ∈ Text.digitZeros, z = 48 ∨ 0x660 ≤ z := by decide
  have first : 48 ∈ Text.digitZeros := by decide
  rw [Text.isDecimalDigit, Text.digitValue?, Option.isSome_map, List.find?_isSome]
  constructor
  · rintro ⟨z, member, within⟩
    simp only [Bool.and_eq_true, decide_eq_true_eq] at within
    rcases zeros z member with rfl | high
    · exact within
    · omega
  · intro within
    refine ⟨48, first, ?_⟩
    simpa using within

theorem toNat_of_isAsciiDigit (h : isAsciiDigit c = true) : 48 ≤ c.toNat ∧ c.toNat ≤ 57 := by
  simp only [isAsciiDigit, Bool.and_eq_true, decide_eq_true_eq] at h
  exact h

theorem isDecimalDigit_of_isAsciiDigit (h : isAsciiDigit c = true) :
    Text.isDecimalDigit c = true := by
  have within := toNat_of_isAsciiDigit h
  exact (isDecimalDigit_iff (by omega)).mpr within

theorem isDecimalDigit_of_isWordStart (starts : isWordStart c = true) :
    Text.isDecimalDigit c = false := by
  have place := toNat_of_isWordStart starts
  refine Bool.eq_false_iff.mpr (fun digit => ?_)
  have within := (isDecimalDigit_iff (by omega)).mp digit
  omega

/-- Of characters of words that are not all digits, the first that is none opens a word. -/
theorem exists_wordStart_of_not_digits (parts : ∀ c ∈ s, isWordPart c = true)
    (mixed : ¬s.all isAsciiDigit = true) (rest : List Char) :
    ∃ c t, (DecimalLiteral.spanDigits (s ++ rest)).2 = c :: t ∧ isWordStart c = true := by
  induction s with
  | nil => exact absurd rfl mixed
  | cons c s ih =>
    rw [List.forall_mem_cons] at parts
    change ∃ d t, (c :: (s ++ rest)).dropWhile Text.isDecimalDigit = d :: t ∧ _
    rcases Bool.or_eq_true_iff.mp parts.1 with starts | digit
    · rw [List.dropWhile_cons, isDecimalDigit_of_isWordStart starts]
      exact ⟨c, s ++ rest, rfl, starts⟩
    · rw [List.all_cons, digit, Bool.true_and] at mixed
      rw [List.dropWhile_cons, if_pos (isDecimalDigit_of_isAsciiDigit digit)]
      exact ih parts.2 mixed

/-- A name that is no exponent is not taken for one: what remains begins with a letter. -/
theorem scanExponent_of_not_exponent {property : String} (isName : isIdentifier property = true)
    (noExponent : Expr.exponentOf? property = none)
    (ends : ∀ c s, rest = c :: s → Text.isDecimalDigit c = false ∧ c ≠ '+' ∧ c ≠ '-') :
    ∃ c s, (DecimalLiteral.scanExponent (property.toList ++ rest)).2 = c :: s ∧
      isWordStart c = true := by
  obtain ⟨letter, tail, split, starts, parts, _⟩ := exists_cons_of_isIdentifier isName
  have parts : ∀ c ∈ tail, isWordPart c = true := List.all_eq_true.mp parts
  rw [split, List.cons_append, DecimalLiteral.scanExponent]
  by_cases isLetter : letter = 'e' ∨ letter = 'E'
  · have noSign : ∀ c t, tail ++ rest = c :: t → c ≠ '+' ∧ c ≠ '-' := by
      intro c t same
      cases tail with
      | nil => exact (ends c t same).2
      | cons d tail =>
        obtain ⟨rfl, _⟩ := List.cons.inj same
        have part := parts d List.mem_cons_self
        constructor
        · rintro rfl
          revert part
          decide
        · rintro rfl
          revert part
          decide
    rw [if_pos isLetter, DecimalLiteral.spanSign_of_no_sign noSign]
    dsimp only
    split
    · exact ⟨letter, _, rfl, starts⟩
    · next digits =>
      -- the digits that were found belong to the name, and do not fill it
      refine exists_wordStart_of_not_digits parts (fun all => ?_) rest
      have none : tail = [] := by
        by_contra some
        simp [Expr.exponentOf?, split, isLetter, some, all] at noExponent
      subst none
      refine digits ?_
      rw [List.nil_append]
      cases rest with
      | nil => rfl
      | cons c t => simp [DecimalLiteral.spanDigits, (ends c t rfl).1]
  · rw [if_neg isLetter]
    exact ⟨letter, _, rfl, starts⟩

/-- Digits and a point are scanned up to the exponent, if there is one. -/
theorem scan_point {ds : List Char} (digits : ∀ c ∈ ds, Text.isDecimalDigit c = true) (ne : ds ≠ [])
    (ends : DecimalLiteral.EndsDigits s) :
    DecimalLiteral.scan (ds ++ '.' :: s) =
      some (⟨ds, some [], (DecimalLiteral.scanExponent s).1⟩,
        (DecimalLiteral.scanExponent s).2) := by
  have atPoint : DecimalLiteral.EndsDigits ('.' :: s) := by
    intro c t same
    rw [← (List.cons.inj same).1]
    exact DecimalLiteral.isDecimalDigit_point
  have whole := DecimalLiteral.spanDigits_digits_append digits atPoint
  have fraction := DecimalLiteral.spanDigits_digits_append (List.forall_mem_nil _) ends
  rw [List.nil_append] at fraction
  rw [DecimalLiteral.scan, whole]
  simp [fraction, ne]

/-- An integer, a point and a name that is no exponent are no number and nothing else. -/
theorem spoils_point {property : String} (isName : isIdentifier property = true)
    (noExponent : Expr.exponentOf? property = none)
    (ends : ∀ c s, rest = c :: s → Text.isDecimalDigit c = false ∧ c ≠ '+' ∧ c ≠ '-') (n : Nat) :
    Spoils (Nat.toDigits 10 n ++ '.' :: (property.toList ++ rest)) := by
  obtain ⟨k, later, remains, starts⟩ := scanExponent_of_not_exponent isName noExponent ends
  have atName : DecimalLiteral.EndsDigits (property.toList ++ rest) := by
    obtain ⟨c, tail, split, starts, _⟩ := exists_cons_of_isIdentifier isName
    intro d t same
    rw [split] at same
    rw [← (List.cons.inj same).1]
    exact isDecimalDigit_of_isWordStart starts
  have digits : ∀ c ∈ Nat.toDigits 10 n, c.isDigit = true := fun c => Text.isDigit_of_mem_toDigits
  have scanned := scan_point
    (fun c member => Text.isDecimalDigit_of_isDigit (digits c member)) Nat.toDigits_ne_nil atName
  rw [remains] at scanned
  have failed : ∀ p, ∃ e, number (Nat.toDigits 10 n ++ '.' :: (property.toList ++ rest)) p =
      .error e := by
    intro p
    rw [number, scanned]
    dsimp only
    rw [if_pos (blocksNumber_of_isWordStart starts)]
    exact ⟨_, rfl⟩
  obtain ⟨c, tail, split⟩ := List.exists_cons_of_ne_nil (Nat.toDigits_ne_nil (b := 10) (n := n))
  have digit : c.isDigit = true := digits c (by rw [split]; exact List.mem_cons_self)
  rw [split, List.cons_append] at failed ⊢
  have place := toNat_of_isDigit digit
  obtain ⟨notBlank, _, notDouble, notSingle⟩ := plain_of_toNat (c := c) (by omega)
  refine spoils_of_lexeme notBlank (fun p => ?_)
  obtain ⟨e, failed⟩ := failed p
  refine ⟨e, ?_⟩
  rw [lexeme, if_neg (by simp [notDouble, notSingle]), if_pos (opensNumber_of_isDigit digit),
    failed]

end Lexer

end FormEngine
