/-
  FormEngine/Proofs/Expression/Concatenation.lean
  ===============================================
  **Blanks between two texts keep their tokens apart.**

  A lexeme does not depend on what stands behind a blank, nor on its place
  (`lexeme_append`): a blank ends words, numbers and operators, and a string literal
  has found its closing quote before.  So the lexer reads the first text as if nothing
  stood behind it, passes the blanks, and reads the second text as if it began there
  (`tokenize_append_blanks`).
-/
import FormEngine.Proofs.Expression.Coverage
import FormEngine.Proofs.Expression.Relexing
import FormEngine.Proofs.Text.Blanks

namespace FormEngine

namespace Lexer

variable {c d : Char} {s t rest operator : List Char} {p q : Nat} {l : Lexeme} {ts : List Token}

theorem isWordPart_of_isBlank (blank : Text.isBlank c = true) : isWordPart c = false := by
  apply Bool.eq_false_iff.mpr
  intro part
  have place : c.toNat = 36 ∨ (48 ≤ c.toNat ∧ c.toNat ≤ 122) := by
    rcases Bool.or_eq_true_iff.mp part with starts | digit
    · have place := toNat_of_isWordStart starts
      omega
    · simp only [isAsciiDigit, Bool.and_eq_true, decide_eq_true_eq] at digit
      have lower : 48 ≤ c.toNat := digit.1
      have upper : c.toNat ≤ 57 := digit.2
      omega
  rw [(plain_of_toNat place).1] at blank
  cases blank

/-! ### Lexemes in front of blanks -/

/-- The text is empty or begins with a blank. -/
def StandsApart (rest : List Char) : Prop := ∀ d t, rest = d :: t → Text.isBlank d = true

theorem StandsApart.endsScan (apart : StandsApart rest) : DecimalLiteral.EndsScan rest := by
  intro d t same
  have blank := apart d t same
  exact ⟨Text.isDecimalDigit_of_isBlank blank, Text.not_mem_of_isBlank blank (by decide)⟩

theorem stringBody_append {quote : Char} {start again length : Nat} {content : List Char}
    (h : stringBody quote start s p = .ok (content, length)) (rest : List Char) (q : Nat) :
    stringBody quote again (s ++ rest) q = .ok (content, length) := by
  apply stringBody_of_quoted
  replace h := quoted_of_stringBody h
  induction h with
  | closed visible s => exact .closed visible (s ++ rest)
  | escaped c _ ih => exact .escaped c ih
  | plain notEscape notQuote notBreak _ ih => exact .plain notEscape notQuote notBreak ih

theorem number_append (h : number s p = .ok l) (apart : StandsApart rest) (q : Nat) :
    number (s ++ rest) q = .ok l := by
  obtain ⟨literal, behind, scanned, rfl, free⟩ := number_eq_ok h
  have again := DecimalLiteral.scan_append_of_ends apart.endsScan s
  rw [scanned] at again
  have free' : ∀ c t, behind ++ rest = c :: t → blocksNumber c = false := by
    intro c t same
    cases behind with
    | nil =>
      have blank := apart c t same
      have others : c ∉ ['_', '$'] := Text.not_mem_of_isBlank blank (by decide)
      simp_all [blocksNumber, Text.isAlphanumeric_of_isBlank]
    | cons d u =>
      rw [← (List.cons.inj same).1]
      exact free d u rfl
  exact number_of_scan again free'

theorem takeWhile_append_of_standsApart (apart : StandsApart rest) (s : List Char) :
    (s ++ rest).takeWhile isWordPart = s.takeWhile isWordPart := by
  induction s with
  | nil =>
    cases rest with
    | nil => rfl
    | cons d t =>
      have noPart := isWordPart_of_isBlank (apart d t rfl)
      simp [noPart]
  | cons c s ih =>
    rw [List.cons_append, List.takeWhile_cons, List.takeWhile_cons, ih]

theorem isPrefix_append_iff (apart : StandsApart rest) (s : List Char)
    (visible : operator.all (fun d => !Text.isBlank d) = true) :
    operator <+: s ++ rest ↔ operator <+: s := by
  induction operator generalizing s with
  | nil => simp
  | cons c operator ih =>
    rw [List.all_cons, Bool.and_eq_true] at visible
    cases s with
    | nil =>
      cases rest with
      | nil => rfl
      | cons d t =>
        have differs : c ≠ d := by
          rintro rfl
          have shown := visible.1
          rw [apart c t rfl] at shown
          cases shown
        simp [differs]
    | cons d s =>
      rw [List.cons_append, List.cons_prefix_cons, List.cons_prefix_cons, ih s visible.2]

theorem operator?_append (h : operator? s = some l) (apart : StandsApart rest) :
    operator? (s ++ rest) = some l := by
  obtain ⟨o, found, rfl⟩ := Option.map_eq_some_iff.mp h
  obtain ⟨written, before, after, split, skipped⟩ := List.find?_eq_some_iff_append.mp found
  have visible : ∀ o ∈ operators, o.1.toList.all (fun d => !Text.isBlank d) = true := by decide
  have same : ∀ o ∈ operators, o.1.toList.isPrefixOf (s ++ rest) = o.1.toList.isPrefixOf s := by
    intro o member
    rw [Bool.eq_iff_iff, List.isPrefixOf_iff_prefix, List.isPrefixOf_iff_prefix]
    exact isPrefix_append_iff apart s (visible o member)
  have again : operators.find? (fun o => o.1.toList.isPrefixOf (s ++ rest)) = some o := by
    rw [List.find?_eq_some_iff_append]
    refine ⟨?_, before, after, split, ?_⟩
    · rw [same o (List.mem_of_find?_eq_some found)]
      exact written
    · intro other passed
      have member : other ∈ operators := by
        rw [split]
        exact List.mem_append_left _ passed
      rw [same other member]
      exact skipped other passed
  rw [operator?, again]
  rfl

theorem opensNumber_append (apart : StandsApart rest) (c : Char) (s : List Char) :
    opensNumber (c :: (s ++ rest)) = opensNumber (c :: s) := by
  cases s with
  | cons d s => rfl
  | nil =>
    cases rest with
    | nil => rfl
    | cons d t =>
      have noDigit : isAsciiDigit d = false := by
        have noPart := isWordPart_of_isBlank (apart d t rfl)
        exact (Bool.or_eq_false_iff.mp noPart).2
      simp [opensNumber, noDigit]

/-- What stands behind a blank does not change a lexeme, and neither does its place. -/
theorem lexeme_append (h : lexeme c s p = .ok l) (apart : StandsApart rest) (q : Nat) :
    lexeme c (s ++ rest) q = .ok l := by
  unfold lexeme at h ⊢
  split at h
  · next isQuote =>
    obtain ⟨⟨content, length⟩, read, returned⟩ := Except.bind_eq_ok_iff.mp h
    rw [if_pos isQuote, stringBody_append read rest (q + 1)]
    exact returned
  · next noQuote =>
    rw [if_neg noQuote, opensNumber_append apart]
    split at h
    · next isNumber =>
      rw [if_pos isNumber]
      exact number_append h apart q
    · next noNumber =>
      rw [if_neg noNumber]
      split at h
      · next isWord =>
        rw [if_pos isWord, ← List.cons_append, word, takeWhile_append_of_standsApart apart]
        exact h
      · next noWord =>
        rw [if_neg noWord]
        split at h
        · next found =>
          rw [← List.cons_append, operator?_append found apart]
          exact h
        · cases h

/-! ### Whole texts -/

/-- The lexer reads a text in front of blanks as it reads the text alone. -/
theorem reads_append (h : tokensFrom s p = .ok ts) (apart : StandsApart rest) :
    ∃ body, ts = body ++ [Token.eof (p + s.length)] ∧
      Reads (s ++ rest) p body rest (p + s.length) := by
  replace h := lexes_of_tokensFrom h
  induction h with
  | ended p => exact ⟨[], rfl, reads_nil⟩
  | @blank c s p ts isBlank _ ih =>
    obtain ⟨body, same, reads⟩ := ih
    rw [Nat.add_assoc, Nat.add_comm 1] at same reads
    exact ⟨body, same, (reads_blank isBlank).trans reads⟩
  | @lexeme c s p l ts notBlank found _ ih =>
    obtain ⟨w, behind, rfl, length, _⟩ := exists_written_of_lexeme found p
    have remains : (w ++ behind).drop (l.length - 1) = behind := by
      rw [length, Nat.add_sub_cancel, List.drop_left]
    have place : p + (c :: (w ++ behind)).length = p + l.length + behind.length := by
      rw [length, List.length_cons, List.length_append]
      omega
    rw [remains] at ih
    obtain ⟨body, rfl, reads⟩ := ih
    have first := lexeme_append found apart p
    rw [List.append_assoc] at first
    rw [place, List.cons_append, List.append_assoc]
    exact ⟨⟨l.kind, l.text, p⟩ :: body, rfl,
      (reads_of_lexeme notBlank first length).trans reads⟩

theorem reads_blanks {w : List Char} (blank : ∀ c ∈ w, Text.isBlank c = true) (p : Nat) :
    Reads (w ++ s) p [] s (p + w.length) := by
  induction w generalizing p with
  | nil => exact reads_nil
  | cons c w ih =>
    obtain ⟨first, others⟩ := List.forall_mem_cons.mp blank
    have onward := (reads_blank first).trans (ih others (p + 1))
    rw [Nat.add_assoc, Nat.add_comm 1] at onward
    exact onward

end Lexer

/-- The token, as many characters further on. -/
def Token.shift (n : Nat) (t : Token) : Token := { t with position := t.position + n }

/-- The tokens of a text do not depend on where it begins. -/
theorem Lexer.tokensFrom_shift {s : List Char} {p : Nat} {ts : List Token}
    (h : tokensFrom s p = .ok ts) (n : Nat) :
    tokensFrom s (p + n) = .ok (ts.map (Token.shift n)) := by
  apply tokensFrom_of_lexes
  replace h := lexes_of_tokensFrom h
  induction h with
  | ended p => exact .ended (p + n)
  | blank isBlank _ ih =>
    rw [Nat.add_right_comm] at ih
    exact .blank isBlank ih
  | @lexeme c s p l ts notBlank found _ ih =>
    have alone : StandsApart [] := by
      intro d t same
      cases same
    have again := lexeme_append found alone (p + n)
    rw [List.append_nil] at again
    rw [Nat.add_right_comm] at ih
    exact .lexeme notBlank again ih

/-- **Texts with blanks between them are read one after the other**: first the tokens of the text in
    front, then those of the text behind, each as many characters further on as stand before. -/
theorem tokenize_append_blanks {front gap back : String} {ts us : List Token}
    (first : tokenize front = .ok ts) (second : tokenize back = .ok us)
    (blank : ∀ c ∈ gap.toList, Text.isBlank c = true) (nonempty : gap ≠ "") :
    ∃ body, ts = body ++ [Token.eof front.length] ∧ tokenize (front ++ gap ++ back) =
      .ok (body ++ us.map (Token.shift (front.length + gap.length))) := by
  have apart : Lexer.StandsApart (gap.toList ++ back.toList) := by
    intro d t same
    cases split : gap.toList with
    | nil => exact absurd (String.toList_eq_nil_iff.mp split) nonempty
    | cons c w =>
      rw [split, List.cons_append] at same
      rw [← (List.cons.inj same).1]
      exact blank c (by rw [split]; exact List.mem_cons_self)
  obtain ⟨body, rfl, reads⟩ := Lexer.reads_append first apart
  have whole := reads.trans (Lexer.reads_blanks blank _)
  have onward := Lexer.tokensFrom_shift second (front.toList.length + gap.toList.length)
  rw [Lexer.Reads, Nat.zero_add, List.append_nil] at whole
  rw [Nat.zero_add] at onward
  rw [Nat.zero_add, ← String.length_toList, ← String.length_toList]
  refine ⟨body, rfl, ?_⟩
  rw [tokenize, String.toList_append, String.toList_append, List.append_assoc, whole, onward]
  rfl

/-- A line break and a tab keep a point behind digits apart from an exponent, and two operators
    from being one. -/
theorem tokenize_append_blanks_point :
    tokenize "*2." = .ok [⟨.star, "*", 0⟩, ⟨.float, "2.", 1⟩, Token.eof 3] ∧
      tokenize "e1 *" = .ok [⟨.ident, "e1", 0⟩, ⟨.star, "*", 3⟩, Token.eof 4] ∧
      (∀ c ∈ "\n\t".toList, Text.isBlank c = true) ∧ "\n\t" ≠ "" ∧
      ∃ body, [⟨.star, "*", 0⟩, ⟨.float, "2.", 1⟩, Token.eof 3] = body ++ [Token.eof 3] ∧
        tokenize ("*2." ++ "\n\t" ++ "e1 *") =
          .ok (body ++ [⟨.ident, "e1", 5⟩, ⟨.star, "*", 8⟩, Token.eof 9]) := by
  have first : tokenize "*2." = .ok [⟨.star, "*", 0⟩, ⟨.float, "2.", 1⟩, Token.eof 3] :=
    Except.eq_ok_of_toOption_eq_some (by decide +kernel)
  have second : tokenize "e1 *" = .ok [⟨.ident, "e1", 0⟩, ⟨.star, "*", 3⟩, Token.eof 4] :=
    Except.eq_ok_of_toOption_eq_some (by decide +kernel)
  have blank : ∀ c ∈ "\n\t".toList, Text.isBlank c = true := List.all_eq_true.mp (by decide)
  have nonempty : "\n\t" ≠ "" := by decide
  exact ⟨first, second, blank, nonempty, tokenize_append_blanks first second blank nonempty⟩

end FormEngine
