/-
  FormEngine/Proofs/Expression/Relexing.lean
  ==========================================
  **What is written is read again**, lexeme by lexeme.

  `Reads s p ts rest q` says that the lexer, standing at position `p` before the text
  `s`, takes the tokens `ts` and then stands at `q` before `rest`.  Such steps are
  put together by `Reads.trans`.  A word, a number or an operator is read back only
  in front of a text that does not go on with it; the text of an expression puts a
  bracket, a comma, a point or a blank there.
-/
import FormEngine.Expression.Expr
import FormEngine.Proofs.Expression.Grammar
import FormEngine.Proofs.Expression.Lexing
import FormEngine.Proofs.Number.Digits
import FormEngine.Proofs.Number.Scanning

namespace FormEngine

namespace Lexer

variable {c : Char} {s rest text : List Char} {p q r : Nat} {ts us : List Token}

/-! ### Steps of the lexer -/

/-- The lexer takes the tokens from the front of the text, and then stands before the rest. -/
def Reads (s : List Char) (p : Nat) (ts : List Token) (rest : List Char) (q : Nat) : Prop :=
  tokensFrom s p = (tokensFrom rest q).map (ts ++ ·)

theorem Reads.trans (h : Reads s p ts rest q) (h' : Reads rest q us text r) :
    Reads s p (ts ++ us) text r := by
  unfold Reads at h h' ⊢
  rw [h, h']
  cases tokensFrom text r with
  | error e => rfl
  | ok later => exact congrArg Except.ok (List.append_assoc ts us later).symm

theorem reads_nil : Reads s p [] s p := by
  unfold Reads
  cases tokensFrom s p <;> rfl

theorem reads_blank (blank : Text.isBlank c = true) : Reads (c :: s) p [] s (p + 1) := by
  unfold Reads
  rw [tokensFrom, if_pos blank]
  cases tokensFrom s (p + 1) <;> rfl

theorem reads_of_lexeme {l : Lexeme} (notBlank : Text.isBlank c = false)
    (found : lexeme c (s ++ rest) p = .ok l) (length : l.length = s.length + 1) :
    Reads (c :: (s ++ rest)) p [⟨l.kind, l.text, p⟩] rest (p + l.length) := by
  unfold Reads
  have remains : (s ++ rest).drop (l.length - 1) = rest := by
    rw [length]
    exact List.drop_left
  rw [tokensFrom, if_neg (by rw [notBlank]; decide), found]
  dsimp only
  rw [remains]
  cases tokensFrom rest (p + l.length) <;> rfl

/-! ### Punctuation and operators -/

/-- The kind of the token that an operator is written as. -/
def kindOf : BinaryOp → TokenKind
  | .add => .plus | .sub => .minus | .mul => .star | .div => .slash | .mod => .percent
  | .pow => .starstar
  | .eq => .eq | .ne => .ne | .strictEq => .strictEq | .strictNe => .strictNe
  | .lt => .lt | .gt => .gt | .le => .le | .ge => .ge
  | .and => .and | .or => .or | .nullish => .nullish

theorem exists_level {op : BinaryOp} (h : op ≠ .pow) :
    ∃ level : Grammar.Level, level.operator? (kindOf op) = some op := by
  cases op with
  | pow => exact absurd rfl h
  | add => exact ⟨.additive, rfl⟩
  | sub => exact ⟨.additive, rfl⟩
  | mul => exact ⟨.multiply, rfl⟩
  | div => exact ⟨.multiply, rfl⟩
  | mod => exact ⟨.multiply, rfl⟩
  | eq => exact ⟨.equality, rfl⟩
  | ne => exact ⟨.equality, rfl⟩
  | strictEq => exact ⟨.equality, rfl⟩
  | strictNe => exact ⟨.equality, rfl⟩
  | lt => exact ⟨.relational, rfl⟩
  | gt => exact ⟨.relational, rfl⟩
  | le => exact ⟨.relational, rfl⟩
  | ge => exact ⟨.relational, rfl⟩
  | and => exact ⟨.and, rfl⟩
  | or => exact ⟨.or, rfl⟩
  | nullish => exact ⟨.nullish, rfl⟩

/-- Wherever it stands, the lexer takes one token of this kind and then stands before the rest. -/
def Takes (kind : TokenKind) (s rest : List Char) : Prop :=
  ∀ p, ∃ t q, t.kind = kind ∧ Reads s p [t] rest q

theorem takes_of_lexeme {l : Lexeme} (notBlank : Text.isBlank c = false)
    (found : ∀ p, lexeme c (s ++ rest) p = .ok l) (length : l.length = s.length + 1) :
    Takes l.kind (c :: (s ++ rest)) rest :=
  fun p => ⟨_, _, rfl, reads_of_lexeme notBlank (found p) length⟩

/-- Punctuation that begins no longer operator. -/
def punctuation : List (Char × TokenKind) :=
  [('(', .lparen), (')', .rparen), ('[', .lbracket), (']', .rbracket), (',', .comma),
   (':', .colon)]

theorem takes_punctuation {kind : TokenKind} (member : (c, kind) ∈ punctuation) :
    Takes kind (c :: rest) rest := by
  have found : ∃ text, Text.isBlank c = false ∧
      ∀ p, lexeme c ([] ++ rest) p = .ok ⟨kind, text, 1⟩ := by
    simp only [punctuation, List.mem_cons, Prod.mk.injEq, List.not_mem_nil, or_false] at member
    rcases member with ⟨rfl, rfl⟩ | ⟨rfl, rfl⟩ | ⟨rfl, rfl⟩ | ⟨rfl, rfl⟩ | ⟨rfl, rfl⟩ |
      ⟨rfl, rfl⟩ <;> exact ⟨_, rfl, fun p => rfl⟩
  obtain ⟨text, notBlank, found⟩ := found
  exact takes_of_lexeme notBlank found rfl

theorem takes_question : Takes .question ('?' :: ' ' :: rest) (' ' :: rest) := by
  have found : ∀ p, lexeme '?' ([] ++ ' ' :: rest) p = .ok ⟨.question, "?", 1⟩ := fun p => rfl
  exact takes_of_lexeme rfl found rfl

/-- A binary operator in front of a blank. -/
theorem takes_symbol (op : BinaryOp) :
    Takes (kindOf op) (op.symbol.toList ++ ' ' :: rest) (' ' :: rest) := by
  have opens : ∃ c s, op.symbol.toList = c :: s ∧ Text.isBlank c = false ∧
      ∀ p, lexeme c (s ++ ' ' :: rest) p = .ok ⟨kindOf op, op.symbol, s.length + 1⟩ := by
    cases op <;> exact ⟨_, _, rfl, rfl, fun p => rfl⟩
  obtain ⟨c, s, split, notBlank, found⟩ := opens
  rw [split]
  exact takes_of_lexeme notBlank found rfl

/-- What opens neither a string literal nor a number nor a word is an operator. -/
theorem lexeme_of_operator? {l : Lexeme} (notQuote : c ≠ '\x22' ∧ c ≠ '\x27')
    (notNumber : opensNumber (c :: s) = false) (notWord : isWordStart c = false)
    (found : operator? (c :: s) = some l) : lexeme c s p = .ok l := by
  simp [lexeme, notQuote, notNumber, notWord, found]

/-- A unary operator in front of a text that makes no other operator of it. -/
theorem takes_unarySymbol {op : UnaryOp} (notAssign : c ≠ '=')
    (notMinus : op = .neg → c ≠ '-') (notPlus : op = .pos → c ≠ '+') :
    ∃ kind, Grammar.unaryOperator? kind = some op ∧
      Takes kind (op.symbol.toList ++ c :: s) (c :: s) := by
  cases op with
  | neg =>
    have alone : operator? ('-' :: c :: s) = some ⟨.minus, "-", 1⟩ := by
      simp [operator?, operators, notAssign.symm, (notMinus rfl).symm]
    have found := fun p => lexeme_of_operator? (p := p) (by decide) rfl rfl alone
    exact ⟨.minus, rfl, takes_of_lexeme (s := []) rfl found rfl⟩
  | pos =>
    have alone : operator? ('+' :: c :: s) = some ⟨.plus, "+", 1⟩ := by
      simp [operator?, operators, notAssign.symm, (notPlus rfl).symm]
    have found := fun p => lexeme_of_operator? (p := p) (by decide) rfl rfl alone
    exact ⟨.plus, rfl, takes_of_lexeme (s := []) rfl found rfl⟩
  | not =>
    have alone : operator? ('!' :: c :: s) = some ⟨.not, "!", 1⟩ := by
      simp [operator?, operators, notAssign.symm]
    have found := fun p => lexeme_of_operator? (p := p) (by decide) rfl rfl alone
    exact ⟨.not, rfl, takes_of_lexeme (s := []) rfl found rfl⟩

/-! ### Words -/

/-- The text does not go on with a word. -/
def EndsWord (rest : List Char) : Prop := ∀ c s, rest = c :: s → isWordPart c = false

theorem endsWord_cons (notPart : isWordPart c = false) : EndsWord (c :: s) := by
  intro d s same
  cases same
  exact notPart

/-- The dollar sign and what stands from the digits to the small letters. -/
theorem plain_of_toNat (h : c.toNat = 36 ∨ (48 ≤ c.toNat ∧ c.toNat ≤ 122)) :
    Text.isBlank c = false ∧ c ≠ '.' ∧ c ≠ '\x22' ∧ c ≠ '\x27' := by
  have notBlank : Text.isBlank c = false := by
    simp only [Text.isBlank, Text.inRanges, Text.blankRanges, List.any_cons, List.any_nil]
    simp only [← Bool.decide_and, Bool.or_false, ← Bool.decide_or, decide_eq_false_iff_not]
    omega
  refine ⟨notBlank, ?_, ?_, ?_⟩
  · rintro rfl
    exact absurd h (by decide)
  · rintro rfl
    exact absurd h (by decide)
  · rintro rfl
    exact absurd h (by decide)

theorem toNat_of_isWordStart (h : isWordStart c = true) :
    c.toNat = 36 ∨ (65 ≤ c.toNat ∧ c.toNat ≤ 122) := by
  simp only [isWordStart, isAsciiLetter, Bool.or_eq_true, Bool.and_eq_true, decide_eq_true_eq,
    beq_iff_eq] at h
  rcases h with ((lower | upper) | rfl) | rfl
  · have from_a : 97 ≤ c.toNat := lower.1
    have to_z : c.toNat ≤ 122 := lower.2
    omega
  · have from_a : 65 ≤ c.toNat := upper.1
    have to_z : c.toNat ≤ 90 := upper.2
    omega
  · decide
  · decide

theorem opensNumber_of_isWordStart (h : isWordStart c = true) : opensNumber (c :: s) = false := by
  have place := toNat_of_isWordStart h
  obtain ⟨_, notPoint, _⟩ := plain_of_toNat (c := c) (by omega)
  have notDigit : isAsciiDigit c = false := by
    have outside : ¬(48 ≤ c.toNat ∧ c.toNat ≤ 57) := by omega
    simp only [isAsciiDigit, ← Bool.decide_and, decide_eq_false_iff_not]
    exact outside
  simp [opensNumber, notDigit, notPoint]

/-- The point of an access, in front of a name. -/
theorem takes_point (starts : isWordStart c = true) : Takes .dot ('.' :: c :: s) (c :: s) := by
  have notDigit : isAsciiDigit c = false := by
    have notNumber := opensNumber_of_isWordStart (s := s) starts
    rw [opensNumber, Bool.or_eq_false_iff] at notNumber
    exact notNumber.1
  have notNumber : opensNumber ('.' :: c :: s) = false := by
    simp [opensNumber, notDigit, show isAsciiDigit '.' = false from rfl]
  have found := fun p => lexeme_of_operator? (p := p) (by decide) notNumber rfl rfl
  exact takes_of_lexeme (s := []) rfl found rfl

/-- A word in front of what does not go on with it. -/
theorem reads_word {word : String} (split : word.toList = c :: s) (starts : isWordStart c = true)
    (parts : s.all isWordPart = true) (ends : EndsWord rest) :
    ∃ q, Reads (word.toList ++ rest) p [⟨TokenKind.ofWord word, word, p⟩] rest q := by
  have place := toNat_of_isWordStart starts
  obtain ⟨notBlank, _, notDouble, notSingle⟩ := plain_of_toNat (c := c) (by omega)
  have notNumber := opensNumber_of_isWordStart (s := s ++ rest) starts
  have all : ∀ d ∈ c :: s, isWordPart d = true := by
    intro d member
    rcases List.mem_cons.mp member with rfl | member
    · simp [isWordPart, starts]
    · exact List.all_eq_true.mp parts d member
  have letters : (c :: (s ++ rest)).takeWhile isWordPart = c :: s := by
    rw [← List.cons_append, List.takeWhile_append_of_pos all]
    cases rest with
    | nil => simp
    | cons d later => simp [ends d later rfl]
  have found : lexeme c (s ++ rest) p = .ok ⟨TokenKind.ofWord word, word, s.length + 1⟩ := by
    have same : String.ofList (c :: s) = word := by
      rw [← split, String.ofList_toList]
    simp [lexeme, notDouble, notSingle, notNumber, starts, Lexer.word, letters, same]
  rw [split]
  exact ⟨_, reads_of_lexeme notBlank found rfl⟩

/-- A name opens a word, goes on with it, and is no keyword. -/
theorem exists_cons_of_isIdentifier {name : String} (isName : isIdentifier name = true) :
    ∃ c s, name.toList = c :: s ∧ isWordStart c = true ∧ s.all isWordPart = true ∧
      TokenKind.ofWord name = .ident := by
  unfold isIdentifier at isName
  split at isName
  · cases isName
  · next c s split =>
    simp only [Bool.and_eq_true, Option.isNone_iff_eq_none] at isName
    obtain ⟨⟨starts, parts⟩, notKeyword⟩ := isName
    refine ⟨c, s, split, starts, parts, ?_⟩
    rw [TokenKind.ofWord, notKeyword]
    rfl

theorem reads_identifier {name : String} (isName : isIdentifier name = true)
    (ends : EndsWord rest) : ∃ q, Reads (name.toList ++ rest) p [⟨.ident, name, p⟩] rest q := by
  obtain ⟨c, s, split, starts, parts, kind⟩ := exists_cons_of_isIdentifier isName
  rw [← kind]
  exact reads_word split starts parts ends

/-! ### Numbers -/

/-- The text does not go on with a number. -/
def EndsNumber (rest : List Char) : Prop :=
  DecimalLiteral.EndsLiteral rest ∧ ∀ c s, rest = c :: s → blocksNumber c = false

theorem toNat_of_isDigit (h : c.isDigit = true) : 48 ≤ c.toNat ∧ c.toNat ≤ 57 := by
  simp only [Char.isDigit, Bool.and_eq_true, decide_eq_true_eq] at h
  exact h

theorem opensNumber_of_isDigit (h : c.isDigit = true) : opensNumber (c :: s) = true := by
  have digit : isAsciiDigit c = true := by
    simp only [isAsciiDigit, ← Bool.decide_and, decide_eq_true_eq]
    exact toNat_of_isDigit h
  simp [opensNumber, digit]

/-- A literal that begins with a digit, in front of what does not go on with it and of no letter
    or digit of any script.  A point goes on with an integer only. -/
theorem reads_number {l : DecimalLiteral} (written : l.IsWritten)
    (begins : ∃ c s, l.whole = c :: s ∧ c.isDigit = true) (ends : DecimalLiteral.EndsDecimal rest)
    (noPoint : l.isInteger = true → ∀ s, rest ≠ '.' :: s)
    (free : ∀ c s, rest = c :: s → blocksNumber c = false) :
    ∃ q, Reads (l.chars ++ rest) p
      [⟨if l.isInteger then .int else .float, String.ofList l.chars, p⟩] rest q := by
  obtain ⟨c, s, first, digit⟩ := begins
  have scanned := DecimalLiteral.scan_decimal_append written ends noPoint
  have number : number (l.chars ++ rest) p =
      .ok ⟨if l.isInteger then .int else .float, String.ofList l.chars, l.chars.length⟩ :=
    number_of_scan scanned free
  obtain ⟨tail, split⟩ : ∃ tail, l.chars = c :: tail := by
    rw [DecimalLiteral.chars, first]
    exact ⟨_, rfl⟩
  rw [split] at number ⊢
  have place := toNat_of_isDigit digit
  obtain ⟨notBlank, _, notDouble, notSingle⟩ := plain_of_toNat (c := c) (by omega)
  have isNumber := opensNumber_of_isDigit (s := tail ++ rest) digit
  rw [List.cons_append] at number
  have found : lexeme c (tail ++ rest) p =
      .ok ⟨if l.isInteger then .int else .float, String.ofList (c :: tail), (c :: tail).length⟩ := by
    simp [lexeme, notDouble, notSingle, isNumber, number]
  exact ⟨_, reads_of_lexeme notBlank found rfl⟩

/-- Digits in front of what does not go on with a number. -/
theorem reads_digits {ds : List Char} (digits : ∀ c ∈ ds, c.isDigit = true) (ne : ds ≠ [])
    (ends : EndsNumber rest) :
    ∃ q, Reads (ds ++ rest) p [⟨.int, String.ofList ds, p⟩] rest q := by
  have written := DecimalLiteral.isWritten_digits
    (fun d member => Text.isDecimalDigit_of_isDigit (digits d member)) ne
  have begins : ∃ c s, ds = c :: s ∧ c.isDigit = true := by
    obtain ⟨c, s, rfl⟩ := List.exists_cons_of_ne_nil ne
    exact ⟨c, s, rfl, digits c List.mem_cons_self⟩
  have noPoint : ∀ s, rest ≠ '.' :: s := fun s same => (ends.1 '.' s same).2.1 rfl
  obtain ⟨q, read⟩ := reads_number (p := p) written begins ends.1.decimal (fun _ => noPoint) ends.2
  rw [DecimalLiteral.chars_digits] at read
  exact ⟨q, read⟩

/-! ### Texts -/

/-- The content of a text literal is read back without its escapes. -/
theorem stringBody_escapeLiteral (start : Nat) (rest : List Char) (oneLine : '\n' ∉ s) :
    stringBody '\x22' start (escapeLiteral s ++ '\x22' :: rest) p =
      .ok (s, (escapeLiteral s).length + 1) := by
  induction s generalizing p with
  | nil => simp [escapeLiteral, stringBody]
  | cons c s ih =>
    have notBreak : c ≠ '\n' := fun same => oneLine (by rw [same]; exact List.mem_cons_self)
    have later : '\n' ∉ s := fun member => oneLine (List.mem_cons_of_mem c member)
    by_cases escaped : c = '\\' ∨ c = '\x22'
    · -- the characters that are escaped in writing stand for themselves when read
      have same : unescape c = c := by
        rcases escaped with rfl | rfl <;> rfl
      simp [escapeLiteral, escaped, stringBody, ih later, same, bind, Except.bind, pure,
        Except.pure]
    · obtain ⟨notBackslash, notQuote⟩ := not_or.mp escaped
      simp [escapeLiteral, stringBody, notBackslash, notQuote, notBreak, ih later, bind,
        Except.bind, pure, Except.pure]

/-- A text literal between its quotes. -/
theorem reads_quoted {content : String} (oneLine : '\n' ∉ content.toList) (rest : List Char)
    (p : Nat) :
    ∃ q, Reads ('\x22' :: (escapeLiteral content.toList ++ '\x22' :: rest)) p
      [⟨.string, content, p⟩] rest q := by
  have body := stringBody_escapeLiteral (p := p + 1) p rest oneLine
  have found : lexeme '\x22' ((escapeLiteral content.toList ++ ['\x22']) ++ rest) p =
      .ok ⟨.string, content, (escapeLiteral content.toList).length + 2⟩ := by
    rw [List.append_assoc, List.cons_append, List.nil_append]
    simp [lexeme, body, bind, Except.bind, pure, Except.pure]
  have read := reads_of_lexeme rfl found (by simp)
  rw [List.append_assoc, List.cons_append, List.nil_append] at read
  exact ⟨_, read⟩

end Lexer

end FormEngine
