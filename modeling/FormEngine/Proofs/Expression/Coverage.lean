/-
  FormEngine/Proofs/Expression/Coverage.lean
  ==========================================
  **The tokens cover the text.**

  Every token before the end owns a stretch of the text, from its position on.  The
  stretches follow one another, and only blanks stand outside of them
  (`tokenize_covers`).  `Token.IsWrittenAs` says how a stretch shows its token: as it
  is, or for a string literal between two equal quotes and with escapes; and that it
  could not be longer.

  The reader of string literals is compared with `quotedContent?`, which looks at
  nothing but what stands between the quotes.
-/
import FormEngine.Proofs.Expression.Spans

namespace FormEngine

namespace Lexer

/-! ### Contents of string literals -/

/-- What is written between two quotes, with the escapes replaced.  It has no content if the quote
    or a line break stands in it without a backslash, or a backslash stands last. -/
def quotedContent? (quote : Char) : List Char → Option (List Char)
  | [] => some []
  | '\\' :: c :: s => (quotedContent? quote s).map (unescape c :: ·)
  | c :: s =>
    if c = '\\' ∨ c = quote ∨ c = '\n' then none else (quotedContent? quote s).map (c :: ·)

variable {c : Char} {s : List Char} {position : Nat} {l : Lexeme}

theorem quotedContent?_cons {quote : Char} (notBackslash : c ≠ '\\') (notQuote : c ≠ quote)
    (notBreak : c ≠ '\n') :
    quotedContent? quote (c :: s) = (quotedContent? quote s).map (c :: ·) := by
  simp [quotedContent?, notBackslash, notQuote, notBreak]

/-- A string literal ends at the first quote that no backslash stands before. -/
theorem exists_body_of_stringBody {quote : Char} {start length : Nat} {content : List Char}
    (h : stringBody quote start s position = .ok (content, length)) :
    ∃ body rest, s = body ++ quote :: rest ∧ length = body.length + 1 ∧
      quotedContent? quote body = some content := by
  replace h := quoted_of_stringBody h
  induction h with
  | closed _ s => exact ⟨[], s, rfl, rfl, rfl⟩
  | escaped c _ ih =>
    obtain ⟨body, rest, rfl, rfl, decoded⟩ := ih
    exact ⟨'\\' :: c :: body, rest, rfl, rfl, by simp [quotedContent?, decoded]⟩
  | @plain c _ _ _ notEscape notQuote notBreak _ ih =>
    obtain ⟨body, rest, rfl, rfl, decoded⟩ := ih
    have plain := quotedContent?_cons (s := body) notEscape notQuote notBreak
    exact ⟨c :: body, rest, rfl, rfl, by rw [plain, decoded]; rfl⟩

/-! ### Longest matches -/

/-- Longer operators stand before shorter ones in the table, so the first match is the longest. -/
theorem length_le_of_operator? {o : String × TokenKind} (h : operator? s = some l)
    (member : o ∈ operators) (written : o.1.toList <+: s) : o.1.length ≤ l.text.length := by
  obtain ⟨first, found, rfl⟩ := Option.map_eq_some_iff.mp h
  obtain ⟨_, before, after, split, skipped⟩ := List.find?_eq_some_iff_append.mp found
  have sorted : operators.Pairwise (fun a b => b.1.length ≤ a.1.length) := by decide
  rw [split] at member sorted
  rcases List.mem_append.mp member with passed | later
  · have noMatch := skipped o passed
    rw [List.isPrefixOf_iff_prefix.mpr written] at noMatch
    cases noMatch
  · rcases List.mem_cons.mp later with rfl | later
    · exact Nat.le_refl _
    · exact (List.pairwise_cons.mp (List.pairwise_append.mp sorted).2.1).1 o later

end Lexer

/-! ### Stretches of text -/

/-- The kinds of numbers and words. -/
def wordKinds : List TokenKind := .int :: .float :: .ident :: keywords.map Prod.snd

/-- The stretch of text shows the token, and what stands behind does not make it longer. -/
structure Token.IsWrittenAs (t : Token) (written behind : List Char) : Prop where
  plain : t.kind ≠ .string → written = t.text.toList
  quoted : t.kind = .string → ∃ quote body, (quote = '\x22' ∨ quote = '\x27') ∧
    written = quote :: (body ++ [quote]) ∧
    Lexer.quotedContent? quote body = some t.text.toList
  longest : t.kind ∈ operators.map Prod.snd →
    ∀ o ∈ operators, o.1.toList <+: written ++ behind → o.1.length ≤ t.text.length
  ends : t.kind ∈ wordKinds → ∀ c rest, behind = c :: rest → Lexer.isWordPart c = false

/-- A token and the place in the text where its stretch ends. -/
structure Span where
  token : Token
  stop : Nat

/-- The character with this number belongs to the stretch. -/
def Span.Holds (span : Span) (i : Nat) : Prop := span.token.position ≤ i ∧ i < span.stop

/-- From `start` on, the text consists of the stretches, one after the other, and of blanks. -/
structure Covers (spans : List Span) (text : List Char) (start : Nat) : Prop where
  within : ∀ span ∈ spans,
    start ≤ span.token.position ∧ span.token.position < span.stop ∧ span.stop ≤ text.length
  written : ∀ span ∈ spans, span.token.IsWrittenAs
    ((text.take span.stop).drop span.token.position) (text.drop span.stop)
  ordered : spans.Pairwise (fun a b => a.stop ≤ b.token.position)
  blank : ∀ i c, start ≤ i → text[i]? = some c → (∀ span ∈ spans, ¬span.Holds i) →
    Text.isBlank c = true

namespace Covers

variable {spans : List Span} {span : Span} {text : List Char} {start : Nat} {c : Char}

theorem nil (ended : text.length ≤ start) : Covers [] text start := by
  constructor
  · exact List.forall_mem_nil _
  · exact List.forall_mem_nil _
  · exact List.Pairwise.nil
  · intro i c from_start found _
    rw [List.getElem?_eq_none (by omega)] at found
    cases found

theorem skip (h : Covers spans text (start + 1)) (found : text[start]? = some c)
    (isBlank : Text.isBlank c = true) : Covers spans text start := by
  constructor
  · intro span member
    have within := h.within span member
    omega
  · exact h.written
  · exact h.ordered
  · intro i d from_start place outside
    rcases Nat.eq_or_lt_of_le from_start with rfl | later
    · rw [found] at place
      cases place
      exact isBlank
    · exact h.blank i d later place outside

theorem cons (h : Covers spans text span.stop) (begins : span.token.position = start)
    (nonempty : start < span.stop) (inside : span.stop ≤ text.length)
    (written : span.token.IsWrittenAs ((text.take span.stop).drop start) (text.drop span.stop)) :
    Covers (span :: spans) text start := by
  constructor
  · intro other member
    rcases List.mem_cons.mp member with rfl | member
    · omega
    · have within := h.within other member
      omega
  · intro other member
    rcases List.mem_cons.mp member with rfl | member
    · rw [begins]
      exact written
    · exact h.written other member
  · rw [List.pairwise_cons]
    exact ⟨fun other member => (h.within other member).1, h.ordered⟩
  · intro i c from_start found outside
    obtain ⟨first, others⟩ := List.forall_mem_cons.mp outside
    have behind : span.stop ≤ i := by
      by_contra before
      exact first ⟨by omega, by omega⟩
    exact h.blank i c behind found others

end Covers

namespace Lexer

variable {c : Char} {s text : List Char} {position p : Nat} {l : Lexeme} {ts : List Token}

/-! ### Single lexemes -/

theorem isWrittenAs_string {quote : Char} {start length : Nat} {content : List Char}
    (isQuote : quote = '\x22' ∨ quote = '\x27')
    (read : stringBody quote start s position = .ok (content, length)) (p : Nat) :
    ∃ w behind, s = w ++ behind ∧ length = w.length ∧
      Token.IsWrittenAs ⟨.string, String.ofList content, p⟩ (quote :: w) behind := by
  obtain ⟨body, rest, rfl, rfl, decoded⟩ := exists_body_of_stringBody read
  have noOperator : TokenKind.string ∉ operators.map Prod.snd := by decide
  have noWord : TokenKind.string ∉ wordKinds := by decide
  refine ⟨body ++ [quote], rest, by simp, by simp, ?_⟩
  constructor
  · intro plain
    exact absurd rfl plain
  · intro _
    exact ⟨quote, body, isQuote, rfl, by rw [decoded, String.toList_ofList]⟩
  · intro isOperator
    exact absurd isOperator noOperator
  · intro isWord
    exact absurd isWord noWord

theorem ne_string_of_mem_wordKinds :
    ∀ kind ∈ wordKinds, kind ≠ .string ∧ kind ∉ operators.map Prod.snd := by
  decide

/-- A number or a word that the text does not go on with. -/
theorem isWrittenAs_of_ends {behind : List Char} (isWord : l.kind ∈ wordKinds)
    (ends : ∀ c rest, behind = c :: rest → isWordPart c = false) (p : Nat) :
    Token.IsWrittenAs ⟨l.kind, l.text, p⟩ l.text.toList behind := by
  obtain ⟨plain, noOperator⟩ := ne_string_of_mem_wordKinds l.kind isWord
  constructor
  · intro _
    rfl
  · intro isString
    exact absurd isString plain
  · intro isOperator
    exact absurd isOperator noOperator
  · intro _
    exact ends

theorem isWrittenAs_number (h : number s position = .ok l) (p : Nat) :
    l.kind ≠ .string ∧ ∃ behind, s = l.text.toList ++ behind ∧
      Token.IsWrittenAs ⟨l.kind, l.text, p⟩ l.text.toList behind := by
  have isWord : l.kind ∈ wordKinds := by
    rcases (kind_number h).1 with kind | kind <;> rw [kind] <;> decide
  obtain ⟨literal, rest, scanned, same, free⟩ := number_eq_ok h
  have split : s = l.text.toList ++ rest := by
    rw [same, String.toList_ofList, DecimalLiteral.scan_append scanned]
  refine ⟨(ne_string_of_mem_wordKinds l.kind isWord).1, rest, split, ?_⟩
  apply isWrittenAs_of_ends isWord
  intro d t same
  apply Bool.eq_false_iff.mpr
  intro part
  have blocked := free d t same
  rw [blocksNumber_of_isWordPart part] at blocked
  cases blocked

theorem isWrittenAs_word (s : List Char) (p : Nat) :
    (word s).kind ≠ .string ∧ ∃ behind, s = (word s).text.toList ++ behind ∧
      Token.IsWrittenAs ⟨(word s).kind, (word s).text, p⟩ (word s).text.toList behind := by
  have isWord : (word s).kind ∈ wordKinds :=
    List.mem_cons_of_mem _ (List.mem_cons_of_mem _ (kind_word s))
  have split : s = (word s).text.toList ++ s.dropWhile isWordPart := by
    rw [word, String.toList_ofList, List.takeWhile_append_dropWhile]
  refine ⟨(ne_string_of_mem_wordKinds _ isWord).1, s.dropWhile isWordPart, split, ?_⟩
  apply isWrittenAs_of_ends isWord
  intro d t same
  have stops := List.head?_dropWhile_not isWordPart s
  rw [same] at stops
  exact stops

theorem isWrittenAs_operator (h : operator? s = some l) (p : Nat) :
    l.kind ≠ .string ∧ ∃ behind, s = l.text.toList ++ behind ∧
      Token.IsWrittenAs ⟨l.kind, l.text, p⟩ l.text.toList behind := by
  have isOperator := kind_operator? h
  have plain : l.kind ≠ .string := ne_of_mem_of_not_mem isOperator (by decide)
  obtain ⟨behind, split⟩ := isPrefix_operator? h
  refine ⟨plain, behind, split.symm, ?_⟩
  constructor
  · intro _
    rfl
  · intro isString
    exact absurd isString plain
  · intro _ o member written
    rw [split] at written
    exact length_le_of_operator? h member written
  · intro isWord
    exact absurd isOperator (ne_string_of_mem_wordKinds l.kind isWord).2

/-- A lexeme takes at least one character, and the characters that it takes show its token. -/
theorem exists_written_of_lexeme (h : lexeme c s position = .ok l) (p : Nat) :
    ∃ w behind, s = w ++ behind ∧ l.length = w.length + 1 ∧
      Token.IsWrittenAs ⟨l.kind, l.text, p⟩ (c :: w) behind := by
  have shown : (l.kind ≠ .string ∧ ∃ behind, c :: s = l.text.toList ++ behind ∧
      Token.IsWrittenAs ⟨l.kind, l.text, p⟩ l.text.toList behind) →
      ∃ w behind, s = w ++ behind ∧ l.length = w.length + 1 ∧
        Token.IsWrittenAs ⟨l.kind, l.text, p⟩ (c :: w) behind := by
    rintro ⟨plain, behind, split, isWritten⟩
    obtain ⟨length, ne⟩ := length_lexeme h plain
    obtain ⟨d, w, written⟩ := List.exists_cons_of_ne_nil ne
    rw [written] at split isWritten length
    obtain ⟨rfl, rest⟩ := List.cons.inj split
    exact ⟨w, behind, rest, length, isWritten⟩
  rcases lexeme_cases h with ⟨content, length, read, isQuote, rfl⟩ | isNumber | ⟨_, rfl⟩ | isOperator
  · obtain ⟨w, behind, split, rfl, isWritten⟩ := isWrittenAs_string isQuote read p
    exact ⟨w, behind, split, rfl, isWritten⟩
  · exact shown (isWrittenAs_number isNumber p)
  · exact shown (isWrittenAs_word (c :: s) p)
  · exact shown (isWrittenAs_operator isOperator p)

/-! ### Whole texts -/

/-- What the lexer makes of the rest of a text covers the rest. -/
theorem covers_tokensFrom (h : tokensFrom s position = .ok ts) (rest : text.drop position = s)
    (inside : position ≤ text.length) :
    ∃ spans : List Span, ts = spans.map Span.token ++ [Token.eof text.length] ∧
      (∀ span ∈ spans, span.token.kind ≠ .eof) ∧ Covers spans text position := by
  replace h := lexes_of_tokensFrom h
  induction h with
  | ended position =>
    have ended : position = text.length := Nat.le_antisymm inside (List.drop_eq_nil_iff.mp rest)
    rw [ended]
    exact ⟨[], rfl, List.forall_mem_nil _, Covers.nil (Nat.le_refl _)⟩
  | @blank c s position ts isBlank _ ih =>
    have place : text[position]? = some c := by
      rw [← List.head?_drop, rest, List.head?_cons]
    have onward : text.drop (position + 1) = s := by
      rw [← List.tail_drop, rest, List.tail_cons]
    have inside : position + 1 ≤ text.length := (List.getElem?_eq_some_iff.mp place).1
    obtain ⟨spans, same, noEnd, covers⟩ := ih onward inside
    exact ⟨spans, same, noEnd, covers.skip place isBlank⟩
  | @lexeme c s position l ts notBlank found _ ih =>
    obtain ⟨w, behind, rfl, length, isWritten⟩ := exists_written_of_lexeme found position
    have taken : (c :: w).length = l.length := length.symm
    have remains : (w ++ behind).drop (l.length - 1) = behind := by
      rw [length, Nat.add_sub_cancel, List.drop_left]
    rw [← List.cons_append] at rest
    have onward : text.drop (position + l.length) = behind := by
      rw [← List.drop_drop, rest, List.drop_left' taken]
    have stretch : (text.take (position + l.length)).drop position = c :: w := by
      rw [List.drop_take, rest, Nat.add_sub_cancel_left, List.take_left' taken]
    have fits : position + l.length ≤ text.length := by
      have whole := congrArg List.length rest
      rw [List.length_drop, List.length_append] at whole
      omega
    rw [remains] at ih
    obtain ⟨spans, same, noEnd, covers⟩ := ih onward fits
    have positive : position < position + l.length := by omega
    rw [← stretch, ← onward] at isWritten
    refine ⟨⟨⟨l.kind, l.text, position⟩, position + l.length⟩ :: spans, ?_, ?_, ?_⟩
    · rw [same]
      rfl
    · rw [List.forall_mem_cons]
      exact ⟨kind_lexeme_ne_eof found, noEnd⟩
    · exact covers.cons rfl positive fits isWritten

end Lexer

/-- **The tokens cover the text**: one end token stands behind them, each owns a stretch of its
    own that shows it and could not be longer, and only blanks stand between the stretches. -/
theorem tokenize_covers {source : String} {ts : List Token} (h : tokenize source = .ok ts) :
    ∃ spans : List Span, ts = spans.map Span.token ++ [Token.eof source.length] ∧
      (∀ span ∈ spans, span.token.kind ≠ .eof) ∧ Covers spans source.toList 0 := by
  rw [← String.length_toList]
  exact Lexer.covers_tokensFrom h rfl (Nat.zero_le _)

/-- Operators that begin others, a point before digits and one behind them, and an escaped quote. -/
theorem tokenize_covers_dense :
    ∃ ts spans, tokenize "a1!==.5e2\n'it\\'s'**=12." = .ok ts ∧
      ts.map Token.kind = [.ident, .strictNe, .float, .string, .starstar, .assign, .float, .eof] ∧
      ts = spans.map Span.token ++ [Token.eof 23] ∧
      Covers spans "a1!==.5e2\n'it\\'s'**=12.".toList 0 := by
  have tokenized : tokenize "a1!==.5e2\n'it\\'s'**=12." = .ok [⟨.ident, "a1", 0⟩,
      ⟨.strictNe, "!==", 2⟩, ⟨.float, ".5e2", 5⟩, ⟨.string, "it's", 10⟩, ⟨.starstar, "**", 17⟩,
      ⟨.assign, "=", 19⟩, ⟨.float, "12.", 20⟩, Token.eof 23] :=
    Except.eq_ok_of_toOption_eq_some (by decide +kernel)
  obtain ⟨spans, same, _, covers⟩ := tokenize_covers tokenized
  exact ⟨_, spans, tokenized, rfl, same, covers⟩

end FormEngine
