/-
  FormEngine/Proofs/Expression/Lexing.lean
  ========================================
  **What the tokens of a text are.**

  What the lexer makes of a text is a derivation of blanks and lexemes (`Lexes`), and
  what it makes of a string literal one of characters and escapes (`Quoted`); both are
  what a statement about its results is proved by induction on.

  The tokens of a text are lexemes of it and the end token behind them
  (`exists_body_of_tokensFrom`).  What holds of every lexeme therefore holds of every
  token before the end: a name is a plain word and no literal, a number with a point
  or an exponent is a decimal literal, and none is an end token.
-/
import FormEngine.Expression.Lexer
import FormEngine.Proofs.Number.Scanning
import FormEngine.Proofs.Outcome

namespace FormEngine

namespace Lexer

variable {c : Char} {s : List Char} {position : Nat} {l : Lexeme} {ts : List Token}

/-! ### Characters -/

theorem isAlphanumeric_of_mem_ranges {range : Nat × Nat}
    (member : range ∈ Text.alphanumericRanges) (within : range.1 ≤ c.toNat ∧ c.toNat ≤ range.2) :
    Text.isAlphanumeric c = true := by
  rw [Text.isAlphanumeric, Text.inRanges, List.any_eq_true]
  exact ⟨range, member, by simpa using within⟩

theorem isAlphanumeric_of_isAsciiLetter (letter : isAsciiLetter c = true) :
    Text.isAlphanumeric c = true := by
  have lower : (0x61, 0x7A) ∈ Text.alphanumericRanges := .tail _ (.tail _ (.head _))
  have upper : (0x41, 0x5A) ∈ Text.alphanumericRanges := .tail _ (.head _)
  simp only [isAsciiLetter, Bool.or_eq_true, Bool.and_eq_true, decide_eq_true_eq] at letter
  rcases letter with letter | letter
  · exact isAlphanumeric_of_mem_ranges lower letter
  · exact isAlphanumeric_of_mem_ranges upper letter

theorem isAlphanumeric_of_isAsciiDigit (digit : isAsciiDigit c = true) :
    Text.isAlphanumeric c = true := by
  have digits : (0x30, 0x39) ∈ Text.alphanumericRanges := .head _
  simp only [isAsciiDigit, Bool.and_eq_true, decide_eq_true_eq] at digit
  exact isAlphanumeric_of_mem_ranges digits digit

theorem blocksNumber_of_isWordStart (starts : isWordStart c = true) : blocksNumber c = true := by
  simp only [isWordStart, Bool.or_eq_true] at starts
  simp only [blocksNumber, Bool.or_eq_true]
  refine starts.imp (fun h => ?_) id
  exact h.imp isAlphanumeric_of_isAsciiLetter id

/-- A number literal may not run into a character of a word. -/
theorem blocksNumber_of_isWordPart (part : isWordPart c = true) : blocksNumber c = true := by
  rcases Bool.or_eq_true_iff.mp part with starts | digit
  · exact blocksNumber_of_isWordStart starts
  · rw [blocksNumber, isAlphanumeric_of_isAsciiDigit digit, Bool.true_or, Bool.true_or]

/-! ### Kinds of lexemes -/

/-- A number is the literal that the scanner finds, and the text does not run on behind it. -/
theorem number_eq_ok (h : number s position = .ok l) :
    ∃ literal rest, DecimalLiteral.scan s = some (literal, rest) ∧
      l = ⟨if literal.isInteger then .int else .float, String.ofList literal.chars,
        literal.chars.length⟩ ∧ ∀ c t, rest = c :: t → blocksNumber c = false := by
  unfold number at h
  split at h
  · cases h
  · next literal rest scanned =>
    dsimp only at h
    split at h
    · next d t =>
      split at h
      · cases h
      · next free =>
        cases h
        refine ⟨literal, _, scanned, rfl, ?_⟩
        intro c t same
        rw [← (List.cons.inj same).1]
        exact Bool.eq_false_iff.mpr free
    · cases h
      refine ⟨literal, _, scanned, rfl, ?_⟩
      intro c t same
      cases same

theorem number_of_scan {literal : DecimalLiteral} {rest : List Char}
    (scanned : DecimalLiteral.scan s = some (literal, rest))
    (free : ∀ c t, rest = c :: t → blocksNumber c = false) :
    number s position = .ok ⟨if literal.isInteger then .int else .float,
      String.ofList literal.chars, literal.chars.length⟩ := by
  rw [number, scanned]
  cases rest with
  | nil => rfl
  | cons c t => simp [free c t rfl]

theorem kind_number (h : number s position = .ok l) :
    (l.kind = .int ∨ l.kind = .float) ∧
      ∃ literal, DecimalLiteral.ofText? l.text.toList = some literal := by
  obtain ⟨literal, rest, scanned, rfl, _⟩ := number_eq_ok h
  constructor
  · dsimp only
    split
    · exact Or.inl rfl
    · exact Or.inr rfl
  · exact ⟨literal, by rw [String.toList_ofList]; exact DecimalLiteral.ofText?_chars_of_scan scanned⟩

/-- The kinds of words are those of keywords and names. -/
theorem ofWord_cases (written : String) :
    (keywords.lookup written = none ∧ TokenKind.ofWord written = .ident) ∨
      ∃ kind ∈ keywords.map Prod.snd, TokenKind.ofWord written = kind := by
  unfold TokenKind.ofWord
  cases found : keywords.lookup written with
  | none => exact Or.inl ⟨rfl, rfl⟩
  | some kind =>
    obtain ⟨before, after, split, _⟩ := List.lookup_eq_some_iff.mp found
    refine Or.inr ⟨kind, ?_, rfl⟩
    rw [split]
    simp

theorem kind_word (s : List Char) : (word s).kind ∈ TokenKind.ident :: keywords.map Prod.snd := by
  change TokenKind.ofWord _ ∈ _
  rcases ofWord_cases (String.ofList (s.takeWhile isWordPart)) with ⟨_, kind⟩ | ⟨_, member, kind⟩
  · rw [kind]
    exact List.mem_cons_self
  · rw [kind]
    exact List.mem_cons_of_mem _ member

theorem kind_operator? (h : operator? s = some l) : l.kind ∈ operators.map Prod.snd := by
  obtain ⟨o, found, rfl⟩ := Option.map_eq_some_iff.mp h
  exact List.mem_map_of_mem (List.mem_of_find?_eq_some found)

/-- A lexeme is a string literal, a number, a word or an operator. -/
theorem lexeme_cases (h : lexeme c s position = .ok l) :
    (∃ content length, stringBody c position s (position + 1) = .ok (content, length) ∧
      (c = '\x22' ∨ c = '\x27') ∧ l = ⟨.string, String.ofList content, length + 1⟩) ∨
      number (c :: s) position = .ok l ∨
      (isWordStart c = true ∧ l = word (c :: s)) ∨ operator? (c :: s) = some l := by
  unfold lexeme at h
  split at h
  · next isQuote =>
    obtain ⟨⟨content, length⟩, read, returned⟩ := Except.bind_eq_ok_iff.mp h
    cases returned
    exact Or.inl ⟨content, length, read, isQuote, rfl⟩
  · split at h
    · exact Or.inr (Or.inl h)
    · split at h
      · next starts =>
        cases h
        exact Or.inr (Or.inr (Or.inl ⟨starts, rfl⟩))
      · split at h
        · next found =>
          cases h
          exact Or.inr (Or.inr (Or.inr found))
        · cases h

-- The two conditions are those of the last equation of `stringBody`.
theorem ne_backslash (notLast : c = '\\' → s = [] → False)
    (notEscape : ∀ d rest, c = '\\' → s = d :: rest → False) : c ≠ '\\' := by
  intro same
  cases s with
  | nil => exact notLast same rfl
  | cons d rest => exact notEscape d rest same rfl

theorem kind_lexeme_ne_eof (h : lexeme c s position = .ok l) : l.kind ≠ .eof := by
  rcases lexeme_cases h with ⟨_, _, _, _, rfl⟩ | isNumber | ⟨_, rfl⟩ | isOperator
  · intro isEnd
    cases isEnd
  · rcases (kind_number isNumber).1 with kind | kind <;> rw [kind] <;> decide
  · exact ne_of_mem_of_not_mem (kind_word (c :: s)) (by decide)
  · exact ne_of_mem_of_not_mem (kind_operator? isOperator) (by decide)

/-- A name is a plain word and no keyword. -/
theorem isIdentifier_of_lexeme (h : lexeme c s position = .ok l) (isName : l.kind = .ident) :
    isIdentifier l.text = true := by
  rcases lexeme_cases h with ⟨_, _, _, _, rfl⟩ | isNumber | ⟨starts, rfl⟩ | isOperator
  · cases isName
  · rcases (kind_number isNumber).1 with kind | kind <;> rw [kind] at isName <;> cases isName
  · rcases ofWord_cases (String.ofList ((c :: s).takeWhile isWordPart)) with
      ⟨plain, _⟩ | ⟨kind, member, same⟩
    · have letters : (c :: s).takeWhile isWordPart = c :: s.takeWhile isWordPart := by
        simp [isWordPart, starts]
      rw [letters] at plain
      have parts : (s.takeWhile isWordPart).all isWordPart = true := List.all_takeWhile
      simp only [isIdentifier, word, letters, String.toList_ofList, starts, parts, plain,
        Option.isNone_none, Bool.and_self]
    · change TokenKind.ofWord _ = .ident at isName
      rw [same] at isName
      subst isName
      exact absurd member (by decide)
  · exact absurd isName (ne_of_mem_of_not_mem (kind_operator? isOperator) (by decide))

theorem isLiteral_of_lexeme (h : lexeme c s position = .ok l) (isFloat : l.kind = .float) :
    ∃ literal, DecimalLiteral.ofText? l.text.toList = some literal := by
  rcases lexeme_cases h with ⟨_, _, _, _, rfl⟩ | isNumber | ⟨_, rfl⟩ | isOperator
  · cases isFloat
  · exact (kind_number isNumber).2
  · exact absurd isFloat (ne_of_mem_of_not_mem (kind_word (c :: s)) (by decide))
  · exact absurd isFloat (ne_of_mem_of_not_mem (kind_operator? isOperator) (by decide))

/-! ### String literals -/

/-- The text goes on, behind an opening quote, with a string literal of this content that takes as
    many characters to its end. -/
inductive Quoted (quote : Char) : List Char → List Char → Nat → Prop
  | closed (visible : quote ≠ '\\') (s : List Char) : Quoted quote (quote :: s) [] 1
  | escaped {s content : List Char} {n : Nat} (c : Char) (later : Quoted quote s content n) :
      Quoted quote ('\\' :: c :: s) (unescape c :: content) (n + 2)
  | plain {c : Char} {s content : List Char} {n : Nat} (notEscape : c ≠ '\\')
      (notQuote : c ≠ quote) (notBreak : c ≠ '\n') (later : Quoted quote s content n) :
      Quoted quote (c :: s) (c :: content) (n + 1)

theorem stringBody_of_quoted {quote : Char} {content : List Char} {n : Nat}
    (h : Quoted quote s content n) (start position : Nat) :
    stringBody quote start s position = .ok (content, n) := by
  induction h generalizing position with
  | closed visible s => simp [stringBody, visible]
  | escaped c _ ih => simp [stringBody, ih, bind, Except.bind, pure, Except.pure]
  | plain notEscape notQuote notBreak _ ih =>
    simp [stringBody, notEscape, notQuote, notBreak, ih, bind, Except.bind, pure, Except.pure]

theorem quoted_of_stringBody {quote : Char} {start n : Nat} {content : List Char}
    (h : stringBody quote start s position = .ok (content, n)) : Quoted quote s content n := by
  induction s, position using stringBody.induct quote generalizing content n with
  | case1 position => cases h
  | case2 position => cases h
  | case3 c s position ih =>
    rw [stringBody] at h
    obtain ⟨⟨later, m⟩, read, returned⟩ := Except.bind_eq_ok_iff.mp h
    cases returned
    exact .escaped c (ih read)
  | case4 s position notLast notEscape =>
    rw [stringBody.eq_4 _ _ _ _ _ notLast notEscape, if_pos rfl] at h
    cases h
    exact .closed (ne_backslash notLast notEscape) s
  | case5 s position notLast notEscape notQuote =>
    rw [stringBody.eq_4 _ _ _ _ _ notLast notEscape, if_neg notQuote, if_pos rfl] at h
    cases h
  | case6 c s position notLast notEscape notQuote notBreak ih =>
    rw [stringBody.eq_4 _ _ _ _ _ notLast notEscape, if_neg notQuote, if_neg notBreak] at h
    obtain ⟨⟨later, m⟩, read, returned⟩ := Except.bind_eq_ok_iff.mp h
    cases returned
    exact .plain (ne_backslash notLast notEscape) notQuote notBreak (ih read)

/-! ### Whole texts -/

/-- The text, whose first character stands at the position, has these tokens: the lexer takes one
    blank or one lexeme after the other. -/
inductive Lexes : List Char → Nat → List Token → Prop
  | ended (position : Nat) : Lexes [] position [Token.eof position]
  | blank {c : Char} {s : List Char} {position : Nat} {ts : List Token}
      (isBlank : Text.isBlank c = true) (later : Lexes s (position + 1) ts) :
      Lexes (c :: s) position ts
  | lexeme {c : Char} {s : List Char} {position : Nat} {l : Lexeme} {ts : List Token}
      (notBlank : Text.isBlank c = false) (found : lexeme c s position = .ok l)
      (later : Lexes (s.drop (l.length - 1)) (position + l.length) ts) :
      Lexes (c :: s) position (⟨l.kind, l.text, position⟩ :: ts)

theorem tokensFrom_of_lexes (h : Lexes s position ts) : tokensFrom s position = .ok ts := by
  induction h with
  | ended position => rw [tokensFrom]
  | blank isBlank _ ih => rw [tokensFrom, if_pos isBlank, ih]
  | lexeme notBlank found _ ih =>
    rw [tokensFrom, if_neg (Bool.eq_false_iff.mp notBlank), found]
    simp [ih, bind, Except.bind, pure, Except.pure]

theorem lexes_of_tokensFrom (h : tokensFrom s position = .ok ts) : Lexes s position ts := by
  induction s, position using tokensFrom.induct generalizing ts with
  | case1 position =>
    rw [tokensFrom] at h
    cases h
    exact .ended position
  | case2 c s position blank ih =>
    rw [tokensFrom, if_pos blank] at h
    exact .blank blank (ih h)
  | case3 c s position notBlank e failed =>
    rw [tokensFrom, if_neg notBlank, failed] at h
    cases h
  | case4 c s position notBlank l found ih =>
    rw [tokensFrom, if_neg notBlank, found] at h
    obtain ⟨rest, later, returned⟩ := Except.bind_eq_ok_iff.mp h
    cases returned
    exact .lexeme (Bool.eq_false_iff.mpr notBlank) found (ih later)

/-- The token is a lexeme of some text. -/
def IsLexeme (t : Token) : Prop :=
  ∃ c s position l, lexeme c s position = .ok l ∧ l.kind = t.kind ∧ l.text = t.text

/-- A blank text has no token before the end. -/
theorem tokensFrom_of_isBlankText (blank : Text.isBlankText s = true) :
    ∃ last, tokensFrom s position = .ok [Token.eof last] := by
  induction s generalizing position with
  | nil =>
    rw [tokensFrom]
    exact ⟨position, rfl⟩
  | cons c s ih =>
    rw [Text.isBlankText, List.all_cons, Bool.and_eq_true] at blank
    rw [tokensFrom, if_pos blank.1]
    exact ih blank.2

theorem exists_body_of_tokensFrom (h : tokensFrom s position = .ok ts) :
    ∃ body last, ts = body ++ [Token.eof last] ∧ ∀ t ∈ body, IsLexeme t := by
  replace h := lexes_of_tokensFrom h
  induction h with
  | ended position => exact ⟨[], position, rfl, List.forall_mem_nil _⟩
  | blank _ _ ih => exact ih
  | @lexeme c s position l ts _ found _ ih =>
    obtain ⟨body, last, rfl, lexemes⟩ := ih
    refine ⟨⟨l.kind, l.text, position⟩ :: body, last, rfl, ?_⟩
    rw [List.forall_mem_cons]
    exact ⟨⟨c, s, position, l, found, rfl, rfl⟩, lexemes⟩

theorem isBlankText_of_tokensFrom (h : tokensFrom s position = .ok ts) (only : ts.length = 1) :
    Text.isBlankText s = true := by
  replace h := lexes_of_tokensFrom h
  induction h with
  | ended position => rfl
  | blank isBlank _ ih =>
    rw [Text.isBlankText, List.all_cons, Bool.and_eq_true]
    exact ⟨isBlank, ih only⟩
  | lexeme _ _ later _ =>
    obtain ⟨body, last, rfl, _⟩ := exists_body_of_tokensFrom (tokensFrom_of_lexes later)
    simp at only

end Lexer

theorem exists_body_of_tokenize {source : String} {ts : List Token}
    (h : tokenize source = .ok ts) :
    ∃ body last, ts = body ++ [Token.eof last] ∧ ∀ t ∈ body, Lexer.IsLexeme t :=
  Lexer.exists_body_of_tokensFrom h

end FormEngine
