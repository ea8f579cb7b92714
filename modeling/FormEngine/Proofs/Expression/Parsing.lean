/-
  FormEngine/Proofs/Expression/Parsing.lean
  =========================================
  **The parser accepts exactly the grammar.**

  `Reading` shows that every phrase is read.  Here the parser is followed the other
  way: whatever a reader returns, the tokens that it took are a phrase of its
  category (`Spans`), nested no deeper than the levels that it had.  Both together
  make the parser the inverse of the grammar: a sequence of tokens has at most one
  tree, and it is parsed if and only if it has one within the limit on nesting.
-/
import FormEngine.Proofs.Expression.Lexing
import FormEngine.Proofs.Expression.NumeralLimit
import FormEngine.Proofs.Expression.Reading

namespace FormEngine

open Grammar

/-- Every token with a point or an exponent is a decimal literal. -/
def Legible (ts : List Token) : Prop :=
  ∀ t ∈ ts, t.kind = .float → ∃ l, DecimalLiteral.ofText? t.text.toList = some l

theorem Legible.of_append {used rest : List Token} (h : Legible (used ++ rest)) : Legible rest :=
  fun t member => h t (List.mem_append_right used member)

theorem Legible.of_cons {t : Token} {ts : List Token} (h : Legible (t :: ts)) : Legible ts :=
  fun u member => h u (List.mem_cons_of_mem t member)

namespace Parser

variable {levels : Nat} {ts rest : List Token} {e : Expr}

/-- The tokens up to `rest` are a phrase of the category and write the tree. -/
def Spans (levels : Nat) (c : Category) (ts : List Token) (e : Expr) (rest : List Token) : Prop :=
  ∃ used n, ts = used ++ rest ∧ n ≤ levels ∧ Derives c used e n

theorem Spans.legible {c : Category} (spans : Spans levels c ts e rest) (legible : Legible ts) :
    Legible rest := by
  obtain ⟨used, _, rfl, _, _⟩ := spans
  exact legible.of_append

theorem Spans.map {c c' : Category} (spans : Spans levels c ts e rest)
    (production : ∀ used n, Derives c used e n → Derives c' used e n) :
    Spans levels c' ts e rest := by
  obtain ⟨used, n, split, within, phrase⟩ := spans
  exact ⟨used, n, split, within, production used n phrase⟩

/-- What the reader returns is a phrase of the category. -/
def Sound (levels : Nat) (c : Category) (reader : TokenReader Expr) : Prop :=
  ∀ ts, Legible ts → ∀ e rest, reader ts = .ok (e, rest) → Spans levels c ts e rest

/-! ### Single tokens -/

theorem exists_cons_of_current {kind : TokenKind} (h : (current ts).kind = kind)
    (notEnd : kind ≠ .eof) : ∃ t us, ts = t :: us ∧ t.kind = kind := by
  cases ts with
  | nil =>
    change TokenKind.eof = kind at h
    exact absurd h.symm notEnd
  | cons t us => exact ⟨t, us, rfl, h⟩

theorem expect_eq_ok {kind : TokenKind} {t : Token} (h : expect kind ts = .ok (t, rest))
    (notEnd : kind ≠ .eof) : ts = t :: rest ∧ t.kind = kind := by
  unfold expect at h
  split at h
  · next found =>
    obtain ⟨u, us, rfl, isKind⟩ := exists_cons_of_current found notEnd
    cases h
    exact ⟨rfl, isKind⟩
  · cases h

theorem writes_of_literal? {t : Token} {value : Literal}
    (legible : t.kind = .float → ∃ l, DecimalLiteral.ofText? t.text.toList = some l)
    (h : literal? t = some (.ok value)) : t.Writes value := by
  unfold literal? at h
  split at h
  · next kind =>
    unfold integerLiteral at h
    split at h
    · next converted =>
      cases h
      exact .integer kind converted
    · cases h
  · next kind =>
    obtain ⟨l, scanned⟩ := legible kind
    rw [floatLiteral, scanned] at h
    cases h
    exact .decimal kind scanned
  · next kind =>
    cases h
    exact .text kind
  · next kind =>
    cases h
    exact .true kind
  · next kind =>
    cases h
    exact .false kind
  · next kind =>
    cases h
    exact .null kind
  · next kind =>
    cases h
    exact .undefined kind
  · next kind =>
    cases h
    exact .nan kind
  · next kind =>
    cases h
    exact .infinity kind
  · cases h

/-! ### Soundness, level by level -/

section Levels

variable {inner : Nested} (expr : Sound levels .expr inner.expr)
  (operand : ∀ ts, Legible ts → ∀ e rest, inner.operand ts = .ok (e, rest) →
    ∃ used n, ts = used ++ rest ∧ n + 1 ≤ levels ∧ Derives .unary used e n)

include expr in
theorem spans_commaSeparated {fuel : Nat} {es : List Expr} (legible : Legible ts)
    (enough : ts.length < fuel) (h : commaSeparated inner fuel ts = .ok (es, rest)) :
    Spans levels .items ts (.array es) rest := by
  induction fuel generalizing ts es with
  | zero => exact absurd enough (Nat.not_lt_zero _)
  | succ fuel ih =>
    rw [commaSeparated] at h
    obtain ⟨⟨e, after⟩, first, onward⟩ := Except.bind_eq_ok_iff.mp h
    have spans := expr ts legible e after first
    have legibleAfter := spans.legible legible
    obtain ⟨used, m, rfl, within, phrase⟩ := spans
    dsimp only at onward
    split at onward
    · next isComma =>
      obtain ⟨comma, later, rfl, parts⟩ := exists_cons_of_current isComma (by decide)
      obtain ⟨⟨more, final⟩, others, returned⟩ := Except.bind_eq_ok_iff.mp onward
      cases returned
      simp only [List.length_append, List.length_cons] at enough
      obtain ⟨used', n, split, within', phrase'⟩ :=
        ih legibleAfter.of_cons (by omega) others
      subst split
      exact ⟨used ++ comma :: used', max m n, by simp, by omega, .cons phrase parts phrase'⟩
    · cases onward
      exact ⟨used, m, rfl, within, .item phrase⟩

include expr in
theorem exists_phrase_of_listUpTo {close : TokenKind} {es : List Expr} (notEnd : close ≠ .eof)
    (legible : Legible ts) (h : listUpTo inner close ts = .ok (es, rest)) :
    ∃ used last n, ts = used ++ last :: rest ∧ last.kind = close ∧ n ≤ levels ∧
      Derives .list used (.array es) n := by
  unfold listUpTo at h
  split at h
  · obtain ⟨⟨last, after⟩, closed, returned⟩ := Except.bind_eq_ok_iff.mp h
    cases returned
    obtain ⟨rfl, closes⟩ := expect_eq_ok closed notEnd
    exact ⟨[], last, 0, rfl, closes, Nat.zero_le _, .empty⟩
  · obtain ⟨⟨items, after⟩, read, onward⟩ := Except.bind_eq_ok_iff.mp h
    obtain ⟨⟨last, final⟩, closed, returned⟩ := Except.bind_eq_ok_iff.mp onward
    cases returned
    obtain ⟨used, n, split, within, phrase⟩ :=
      spans_commaSeparated expr legible (Nat.lt_succ_self _) read
    obtain ⟨rfl, closes⟩ := expect_eq_ok closed notEnd
    exact ⟨used, last, n, split, closes, within, .list phrase⟩

include expr in
theorem sound_primary : Sound levels .primary (primary inner) := by
  intro ts legible e rest h
  unfold primary at h
  dsimp only at h
  split at h
  · next isParen =>
    obtain ⟨paren, later, rfl, opens⟩ := exists_cons_of_current isParen (by decide)
    obtain ⟨⟨inside, after⟩, read, onward⟩ := Except.bind_eq_ok_iff.mp h
    obtain ⟨⟨close, final⟩, closed, returned⟩ := Except.bind_eq_ok_iff.mp onward
    cases returned
    obtain ⟨used, n, split, within, phrase⟩ := expr later legible.of_cons inside after read
    obtain ⟨rfl, closes⟩ := expect_eq_ok closed (by decide)
    subst split
    exact ⟨paren :: (used ++ [close]), n, by simp, within, .parenthesised opens phrase closes⟩
  · next isBracket =>
    obtain ⟨bracket, later, rfl, opens⟩ := exists_cons_of_current isBracket (by decide)
    obtain ⟨⟨items, after⟩, read, returned⟩ := Except.bind_eq_ok_iff.mp h
    cases returned
    obtain ⟨used, close, n, split, closes, within, phrase⟩ :=
      exists_phrase_of_listUpTo expr (by decide) legible.of_cons read
    subst split
    exact ⟨bracket :: (used ++ [close]), n, by simp, within, .array opens phrase closes⟩
  · next isName =>
    obtain ⟨name, later, rfl, isName⟩ := exists_cons_of_current isName (by decide)
    cases h
    exact ⟨[name], 0, rfl, Nat.zero_le _, .identifier isName⟩
  · split at h
    · next value found =>
      obtain ⟨value, converted, returned⟩ := Except.bind_eq_ok_iff.mp h
      cases returned
      cases ts with
      | nil => cases found
      | cons t later =>
        rw [converted] at found
        have writes := writes_of_literal? (legible t List.mem_cons_self) found
        exact ⟨[t], 0, rfl, Nat.zero_le _, .literal writes⟩
    · cases h

include expr in
theorem sound_callOrPrimary : Sound levels .access (callOrPrimary inner) := by
  intro ts legible e rest h
  have plain : ∀ e rest, primary inner ts = .ok (e, rest) → Spans levels .access ts e rest :=
    fun e rest read => (sound_primary expr ts legible e rest read).map (fun _ _ => .primary)
  unfold callOrPrimary at h
  split at h
  · next space dot name paren later =>
    split at h
    · next isCall =>
      obtain ⟨isSpace, isDot, isName, opens⟩ := isCall
      obtain ⟨⟨arguments, after⟩, read, returned⟩ := Except.bind_eq_ok_iff.mp h
      cases returned
      obtain ⟨used, close, n, rfl, closes, within, phrase⟩ :=
        exists_phrase_of_listUpTo expr (by decide) legible.of_cons.of_cons.of_cons.of_cons read
      exact ⟨space :: dot :: name :: paren :: (used ++ [close]), n, by simp, within,
        .call isSpace isDot isName opens phrase closes⟩
    · exact plain e rest h
  · exact plain e rest h

include expr in
theorem spans_accesses {fuel : Nat} {all : List Token} {target : Expr}
    (spans : Spans levels .access all target ts) (legible : Legible ts)
    (h : accesses inner fuel target ts = .ok (e, rest)) : Spans levels .access all e rest := by
  induction fuel generalizing target ts with
  | zero =>
    cases h
    exact spans
  | succ fuel ih =>
    obtain ⟨used, m, rfl, within, phrase⟩ := spans
    rw [accesses] at h
    split at h
    · next isDot =>
      obtain ⟨dot, later, rfl, isDot⟩ := exists_cons_of_current isDot (by decide)
      obtain ⟨⟨name, after⟩, named, onward⟩ := Except.bind_eq_ok_iff.mp h
      obtain ⟨rfl, isName⟩ := expect_eq_ok named (by decide)
      dsimp only at onward
      split at onward
      · cases onward
      · exact ih ⟨used ++ [dot, name], m, by simp, within, .member phrase isDot isName⟩
          legible.of_cons.of_cons onward
    · next isBracket =>
      obtain ⟨bracket, later, rfl, opens⟩ := exists_cons_of_current isBracket (by decide)
      obtain ⟨⟨place, after⟩, read, onward⟩ := Except.bind_eq_ok_iff.mp h
      obtain ⟨⟨close, final⟩, closed, next⟩ := Except.bind_eq_ok_iff.mp onward
      have inside := expr later legible.of_cons place after read
      have legibleAfter := inside.legible legible.of_cons
      obtain ⟨used', n, split, within', phrase'⟩ := inside
      obtain ⟨rfl, closes⟩ := expect_eq_ok closed (by decide)
      subst split
      exact ih ⟨used ++ bracket :: (used' ++ [close]), max m n, by simp, by omega,
        .index phrase opens phrase' closes⟩ legibleAfter.of_cons next
    · cases h
    · cases h
      exact ⟨used, m, rfl, within, phrase⟩

include expr in
theorem sound_access : Sound levels .access (access inner) := by
  intro ts legible e rest h
  obtain ⟨⟨target, after⟩, read, onward⟩ := Except.bind_eq_ok_iff.mp h
  have spans := sound_callOrPrimary expr ts legible target after read
  exact spans_accesses expr spans (spans.legible legible) onward

include expr operand in
theorem sound_power : Sound levels .power (power inner) := by
  intro ts legible e rest h
  obtain ⟨⟨base, after⟩, read, onward⟩ := Except.bind_eq_ok_iff.mp h
  have spans := sound_access expr ts legible base after read
  have legibleAfter := spans.legible legible
  dsimp only at onward
  split at onward
  · next isPower =>
    obtain ⟨t, later, rfl, raises⟩ := exists_cons_of_current isPower (by decide)
    obtain ⟨⟨exponent, final⟩, read', returned⟩ := Except.bind_eq_ok_iff.mp onward
    cases returned
    obtain ⟨used, m, rfl, within, phrase⟩ := spans
    obtain ⟨used', n, split, within', phrase'⟩ :=
      operand later legibleAfter.of_cons exponent final read'
    subst split
    exact ⟨used ++ t :: used', max m (n + 1), by simp, by omega, .pow phrase raises phrase'⟩
  · cases onward
    exact spans.map (fun _ _ => .base)

include expr operand in
theorem sound_unary : Sound levels .unary (unary inner) := by
  intro ts legible e rest h
  unfold unary at h
  split at h
  · next op found =>
    obtain ⟨⟨x, after⟩, read, returned⟩ := Except.bind_eq_ok_iff.mp h
    cases returned
    cases ts with
    | nil => cases found
    | cons t later =>
      obtain ⟨used, n, split, within, phrase⟩ := operand later legible.of_cons x rest read
      subst split
      rw [unaryOp?_eq] at found
      exact ⟨t :: used, n + 1, rfl, within, .unary found phrase⟩
  · exact (sound_power expr operand ts legible e rest h).map (fun _ _ => .power)

end Levels

theorem spans_operands {level : Level} {reader : TokenReader Expr} {fuel : Nat}
    {all : List Token} {left : Expr} (sound : Sound levels level.operand reader)
    (spans : Spans levels (.chain level) all left ts) (legible : Legible ts)
    (h : operands level.table reader fuel left ts = .ok (e, rest)) :
    Spans levels (.chain level) all e rest := by
  induction fuel generalizing left ts with
  | zero =>
    cases h
    exact spans
  | succ fuel ih =>
    rw [operands] at h
    split at h
    · cases h
      exact spans
    · next op found =>
      obtain ⟨⟨right, after⟩, read, onward⟩ := Except.bind_eq_ok_iff.mp h
      obtain ⟨used, m, rfl, within, phrase⟩ := spans
      cases ts with
      | nil =>
        rw [table_eq] at found
        cases level <;> cases found
      | cons t later =>
        have inside := sound later legible.of_cons right after read
        have legibleAfter := inside.legible legible.of_cons
        obtain ⟨used', n, split, within', phrase'⟩ := inside
        subst split
        rw [table_eq] at found
        exact ih ⟨used ++ t :: used', max m n, by simp, by omega, .binary phrase found phrase'⟩
          legibleAfter onward

theorem sound_chain {level : Level} {reader : TokenReader Expr}
    (sound : Sound levels level.operand reader) :
    Sound levels (.chain level) (chain level.table reader) := by
  intro ts legible e rest h
  obtain ⟨⟨left, after⟩, read, onward⟩ := Except.bind_eq_ok_iff.mp h
  have spans := sound ts legible left after read
  exact spans_operands sound (spans.map (fun _ _ => .operand)) (spans.legible legible) onward

/-- Every level of operators is sound if unary expressions are. -/
theorem sound_level {inner : Nested} (sound : Sound levels .unary (unary inner)) :
    Sound levels (.chain .nullish) (nullish inner) := by
  have multiply : Sound levels (.chain .multiply) (multiply inner) := sound_chain sound
  have additive : Sound levels (.chain .additive) (additive inner) := sound_chain multiply
  have relational : Sound levels (.chain .relational) (relational inner) := sound_chain additive
  have equality : Sound levels (.chain .equality) (equality inner) := sound_chain relational
  have and : Sound levels (.chain .and) (Parser.and inner) := sound_chain equality
  have or : Sound levels (.chain .or) (Parser.or inner) := sound_chain and
  exact sound_chain or

theorem sound_conditional {inner : Nested} (expr : Sound levels .expr inner.expr)
    (nullish : Sound levels (.chain .nullish) (nullish inner)) :
    Sound levels .conditional (conditional inner) := by
  intro ts legible e rest h
  obtain ⟨⟨condition, after⟩, read, onward⟩ := Except.bind_eq_ok_iff.mp h
  have spans := nullish ts legible condition after read
  have legibleAfter := spans.legible legible
  dsimp only at onward
  split at onward
  · next isQuestion =>
    obtain ⟨question, later, rfl, asks⟩ := exists_cons_of_current isQuestion (by decide)
    obtain ⟨⟨thenBranch, after'⟩, read', onward⟩ := Except.bind_eq_ok_iff.mp onward
    obtain ⟨⟨colon, after''⟩, parted, next⟩ := Except.bind_eq_ok_iff.mp onward
    obtain ⟨⟨elseBranch, final⟩, read'', returned⟩ := Except.bind_eq_ok_iff.mp next
    cases returned
    have spans' := expr later legibleAfter.of_cons thenBranch after' read'
    have legible' := spans'.legible legibleAfter.of_cons
    obtain ⟨rfl, parts⟩ := expect_eq_ok parted (by decide)
    obtain ⟨es, _, split'', within'', phrase''⟩ :=
      expr after'' legible'.of_cons elseBranch final read''
    obtain ⟨us, m, split', within', phrase'⟩ := spans'
    obtain ⟨cs, k, rfl, within, phrase⟩ := spans
    subst split' split''
    -- The branch after the colon is an expression, hence a conditional one level deeper.
    cases phrase'' with
    | expr body =>
      exact ⟨cs ++ question :: (us ++ colon :: es), _, by simp, by omega,
        .conditional phrase asks phrase' parts body⟩
  · cases onward
    exact spans.map (fun _ _ => .condition)

/-- **Soundness**: what is read with some levels left is a phrase nested no deeper. -/
theorem sound_nested (levels : Nat) :
    Sound levels .expr (nested levels).expr ∧
    ∀ ts, Legible ts → ∀ e rest, (nested levels).operand ts = .ok (e, rest) →
      ∃ used n, ts = used ++ rest ∧ n + 1 ≤ levels ∧ Derives .unary used e n := by
  induction levels with
  | zero =>
    constructor
    · intro ts _ e rest h
      cases h
    · intro ts _ e rest h
      cases h
  | succ levels ih =>
    obtain ⟨expr, operand⟩ := ih
    have unary := sound_unary expr operand
    constructor
    · intro ts legible e rest h
      obtain ⟨used, n, split, within, phrase⟩ :=
        sound_conditional expr (sound_level unary) ts legible e rest h
      exact ⟨used, n + 1, split, Nat.succ_le_succ within, .expr phrase⟩
    · intro ts legible e rest h
      obtain ⟨used, n, split, within, phrase⟩ := unary ts legible e rest h
      exact ⟨used, n, split, Nat.succ_le_succ within, phrase⟩

end Parser

/-! ### Whole expressions -/

section Whole

variable {body ts : List Token} {last m n : Nat} {e e' : Expr}

/-- A sequence of tokens writes at most one expression, however deep it is nested. -/
theorem Grammar.Derives.unique (h : Derives .expr ts e m) (h' : Derives .expr ts e' n) :
    e = e' := by
  have ends : Parser.Ends 1 [] := Nat.zero_lt_one
  have read := (Parser.completes_of_derives h (max m n) [] ends).1 (le_max_left m n)
  have read' := (Parser.completes_of_derives h' (max m n) [] ends).1 (le_max_right m n)
  rw [read] at read'
  exact congrArg Prod.fst (Except.ok.inj read')

/-- A phrase is parsed, unless it is nested too deep. -/
theorem returns_parseTokens (h : Derives .expr body e n) (last : Nat) :
    Parser.Returns maxNesting n (parseTokens (body ++ [Token.eof last])) e := by
  have ends : Parser.Ends 1 [Token.eof last] := Nat.zero_lt_one
  have read := Parser.completes_of_derives h maxNesting [Token.eof last] ends
  exact (read.bind _).mono (fun read => read)

/-- What is parsed is a phrase. -/
theorem derives_of_parseTokens (legible : Legible (body ++ [Token.eof last]))
    (noEnd : ∀ t ∈ body, t.kind ≠ .eof) (h : parseTokens (body ++ [Token.eof last]) = .ok e) :
    ∃ n, n ≤ maxNesting ∧ Derives .expr body e n := by
  obtain ⟨⟨tree, rest⟩, read, onward⟩ := Except.bind_eq_ok_iff.mp h
  obtain ⟨used, n, split, within, phrase⟩ :=
    (Parser.sound_nested maxNesting).1 _ legible tree rest read
  have noEndUsed : ∀ t ∈ used, t.kind ≠ .eof :=
    fun t member => (phrase.isPart t member).kind_ne rfl (by decide)
  dsimp only at onward
  split at onward
  · next atEnd =>
    cases onward
    -- The rest begins with the end token, and the only one is the last token.
    rcases List.append_eq_append_iff.mp split with ⟨more, grown, ends⟩ | ⟨more, shrunk, ends⟩
    · cases more with
      | nil =>
        rw [List.append_nil] at grown
        rw [grown] at phrase
        exact ⟨n, within, phrase⟩
      | cons t more =>
        have isEnd : t = Token.eof last := (List.cons.inj ends).1.symm
        have member : t ∈ used := by
          rw [grown]
          simp
        rw [isEnd] at member
        exact absurd rfl (noEndUsed _ member)
    · cases more with
      | nil =>
        rw [List.append_nil] at shrunk
        rw [shrunk]
        exact ⟨n, within, phrase⟩
      | cons t more =>
        have member : t ∈ body := by
          rw [shrunk]
          simp
        rw [ends] at atEnd
        exact absurd atEnd (noEnd t member)
  · cases onward

end Whole

theorem legible_of_tokenize {source : String} {ts : List Token} (h : tokenize source = .ok ts) :
    Legible ts := by
  obtain ⟨body, last, rfl, lexemes⟩ := exists_body_of_tokenize h
  intro t member isFloat
  rcases List.mem_append.mp member with inBody | isLast
  · obtain ⟨c, s, position, l, found, kind, text⟩ := lexemes t inBody
    rw [← text]
    exact Lexer.isLiteral_of_lexeme found (kind.trans isFloat)
  · rw [List.mem_singleton.mp isLast] at isFloat
    cases isFloat

theorem kind_ne_eof_of_isLexeme {t : Token} (h : Lexer.IsLexeme t) : t.kind ≠ .eof := by
  obtain ⟨c, s, position, l, found, kind, _⟩ := h
  rw [← kind]
  exact Lexer.kind_lexeme_ne_eof found

/-- The tokens of a text that are parsed are a phrase and the end token. -/
theorem exists_phrase_of_parseTokens {source : String} {ts : List Token} {e : Expr}
    (tokenized : tokenize source = .ok ts) (parsed : parseTokens ts = .ok e) :
    ∃ body last n, ts = body ++ [Token.eof last] ∧ (∀ t ∈ body, Lexer.IsLexeme t) ∧
      Derives .expr body e n := by
  have legible := legible_of_tokenize tokenized
  obtain ⟨body, last, rfl, lexemes⟩ := exists_body_of_tokenize tokenized
  obtain ⟨n, _, phrase⟩ := derives_of_parseTokens legible
    (fun t member => kind_ne_eof_of_isLexeme (lexemes t member)) parsed
  exact ⟨body, last, n, rfl, lexemes, phrase⟩

theorem parseExpr_eq_ok_iff {source : String} {e : Expr} :
    parseExpr source = .ok e ↔ ∃ ts, tokenize source = .ok ts ∧ parseTokens ts = .ok e := by
  unfold parseExpr
  cases tokenize source with
  | error _ => simp [Parser.fail]
  | ok ts => simp

/-- **The parser and the grammar agree** on every sequence of tokens that a text has, as long
    as its integers can be converted. -/
theorem parseTokens_iff_derives {source : String} {ts : List Token}
    (tokenized : tokenize source = .ok ts) (fit : NumeralsFit ts) :
    ∃ body last, ts = body ++ [Token.eof last] ∧ (∀ t ∈ body, t.kind ≠ .eof) ∧
      (∀ e, parseTokens ts = .ok e ↔ ∃ n, n ≤ 32 ∧ Derives .expr body e n) ∧
      ((¬∃ e n, n ≤ 32 ∧ Derives .expr body e n) →
        ∃ error, parseTokens ts = .error (.rejected error)) ∧
      ∀ e e' m n, Derives .expr body e m → Derives .expr body e' n → e = e' := by
  have legible := legible_of_tokenize tokenized
  obtain ⟨body, last, rfl, lexemes⟩ := exists_body_of_tokenize tokenized
  have noEnd : ∀ t ∈ body, t.kind ≠ .eof :=
    fun t member => kind_ne_eof_of_isLexeme (lexemes t member)
  have accepts : ∀ e, parseTokens (body ++ [Token.eof last]) = .ok e ↔
      ∃ n, n ≤ 32 ∧ Derives .expr body e n := by
    intro e
    constructor
    · exact derives_of_parseTokens legible noEnd
    · rintro ⟨n, within, phrase⟩
      exact (returns_parseTokens phrase last).1 within
  refine ⟨body, last, rfl, noEnd, accepts, ?_, fun e e' m n h h' => h.unique h'⟩
  intro underivable
  cases result : parseTokens (body ++ [Token.eof last]) with
  | ok e => exact absurd ⟨e, (accepts e).mp result⟩ underivable
  | error failure =>
    cases failure with
    | rejected error => exact ⟨error, rfl⟩
    | numeral error => exact absurd result (parseTokens_ne_numeral fit error)

/-- An exponent binds tighter than the sign before it, and differences group to the left. -/
theorem parseTokens_iff_derives_conditional :
    ∃ ts, tokenize "a?-b**c:d-e-2" = .ok ts ∧ NumeralsFit ts ∧
      ∃ body last, ts = body ++ [Token.eof last] ∧ ∃ n, n ≤ 32 ∧ Derives .expr body
        (.conditional (.identifier "a")
          (.unary .neg (.binary .pow (.identifier "b") (.identifier "c")))
          (.binary .sub (.binary .sub (.identifier "d") (.identifier "e"))
            (.literal (.number 2)))) n := by
  have tokenized : tokenize "a?-b**c:d-e-2" = .ok [⟨.ident, "a", 0⟩, ⟨.question, "?", 1⟩,
      ⟨.minus, "-", 2⟩, ⟨.ident, "b", 3⟩, ⟨.starstar, "**", 4⟩, ⟨.ident, "c", 6⟩,
      ⟨.colon, ":", 7⟩, ⟨.ident, "d", 8⟩, ⟨.minus, "-", 9⟩, ⟨.ident, "e", 10⟩,
      ⟨.minus, "-", 11⟩, ⟨.int, "2", 12⟩, Token.eof 13] :=
    Except.eq_ok_of_toOption_eq_some (by decide +kernel)
  have fit := numeralsFit_of_tokenize (by decide) tokenized
  obtain ⟨body, last, split, _, accepts, _, _⟩ := parseTokens_iff_derives tokenized fit
  exact ⟨_, tokenized, fit, body, last, split, (accepts _).mp rfl⟩

end FormEngine
