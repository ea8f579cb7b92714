/-
  FormEngine/Proofs/Expression/Outcomes.lean
  ==========================================
  **How the evaluation of an expression from outside ends.**

  It ends with a value that a form can store or with an error of one of its stages,
  and in one other way: an integer with more digits than are converted interrupts the
  parser.  The settings admit expressions that hold such an integer.
-/
import FormEngine.Proofs.Expression.Balance
import FormEngine.Proofs.Expression.Relexing

namespace FormEngine

/-- A scalar, or a list of scalars. -/
def Value.IsStorable : Value → Prop
  | .list _ items => ∀ v ∈ items, v.isScalar = true
  | v => v.isScalar = true

/-- The expression is a text within the length limit that has an integer among its tokens with
    more digits than are converted. -/
def HasOverlongInteger (settings : Settings) (expression : Value) : Prop :=
  ∃ source ts t, expression = .text source ∧ source.length ≤ settings.maxExpressionLength ∧
    tokenize source = .ok ts ∧ t ∈ ts ∧ t.kind = .int ∧ digitLimit < t.text.toList.length

section Outcomes

variable {settings : Settings} {expression : Value} {e : Expr} {v w : Value} {occasion : Occasion}

/-! ### Values -/

theorem isStorable_of_isScalar (scalar : v.isScalar = true) : v.IsStorable := by
  cases v with
  | list identity items => cases scalar
  | _ => exact scalar

theorem isStorable_of_storable (h : storable v occasion = .ok w) : w.IsStorable := by
  unfold storable at h
  split at h
  · next scalar =>
    cases h
    exact isStorable_of_isScalar scalar
  · split at h
    · split at h
      · next scalars =>
        cases h
        exact List.all_eq_true.mp scalars
      · cases h
    · split at h <;> cases h

/-! ### Interruptions -/

/-- Only an overlong integer interrupts the checks. -/
theorem hasOverlongInteger_of_numeral {error : NumeralError}
    (h : checkExpression settings expression = .error (.numeral error)) :
    HasOverlongInteger settings expression := by
  rcases Except.bind_eq_error_iff.mp h with refused | ⟨source, shape, onward⟩
  · obtain ⟨_, _, other⟩ := Except.mapError_eq_error_iff.mp refused
    cases other
  obtain ⟨isText, within, _⟩ := expressionText_eq_ok_iff.mp (Except.mapError_eq_ok_iff.mp shape)
  rcases Except.bind_eq_error_iff.mp onward with refused | ⟨ts, screened, parsed⟩
  · obtain ⟨_, _, other⟩ := Except.mapError_eq_error_iff.mp refused
    cases other
  have tokenized := (screenedTokens_eq_ok_iff.mp (Except.mapError_eq_ok_iff.mp screened)).1
  -- without an overlong integer every integer is converted, and nothing else interrupts
  by_contra none
  have fit : NumeralsFit ts := by
    intro t member isInt
    by_contra long
    exact none ⟨source, ts, t, isText, within, tokenized, member, isInt, by omega⟩
  unfold screenedExpr at parsed
  split at parsed
  · cases parsed
  · next interrupted => exact parseTokens_ne_numeral fit _ interrupted
  · split at parsed <;> cases parsed

theorem exists_readDecimal_of_writes {t : Token} {value : Literal} (writes : t.Writes value)
    (isInt : t.kind = .int) : ∃ n, Text.readDecimal t.text.toList = .ok n := by
  cases writes with
  | integer _ read => exact ⟨_, read⟩
  | decimal kind _ | text kind | true kind | false kind | null kind | undefined kind | nan kind
  | infinity kind =>
    rw [isInt] at kind
    cases kind

/-- The integers of what is parsed are converted. -/
theorem numeralsFit_of_parseTokens {source : String} {ts : List Token}
    (tokenized : tokenize source = .ok ts) (parsed : parseTokens ts = .ok e) : NumeralsFit ts := by
  obtain ⟨body, last, n, rfl, lexemes, phrase⟩ := exists_phrase_of_parseTokens tokenized parsed
  intro t member isInt
  rcases List.mem_append.mp member with inBody | isLast
  · rcases phrase.isPart t inBody with ⟨value, writes⟩ | connective
    · obtain ⟨_, read⟩ := exists_readDecimal_of_writes writes isInt
      by_contra long
      rw [Text.readDecimal, if_neg long] at read
      cases read
    · rw [isInt] at connective
      exact absurd connective (by decide)
  · rw [List.mem_singleton.mp isLast] at isInt
    cases isInt

theorem not_hasOverlongInteger_of_checkExpression
    (h : checkExpression settings expression = .ok e) :
    ¬HasOverlongInteger settings expression := by
  obtain ⟨source, ts, shape, tokenized, _, parsed, _⟩ := checkExpression_eq_ok_iff.mp h
  have isText := (expressionText_eq_ok_iff.mp shape).1
  rintro ⟨source', ts', t, isText', _, tokenized', member, isInt, long⟩
  rw [isText] at isText'
  cases isText'
  rw [tokenized] at tokenized'
  cases tokenized'
  have short := numeralsFit_of_parseTokens tokenized parsed t member isInt
  omega

/-! ### Every outcome -/

/-- **The outcomes of an expression from outside**: a storable value, an error of one of the
    stages, or an interruption by an overlong integer.  An expression with such an integer never
    has a value, and nothing else interrupts its check. -/
theorem evaluateExpression_outcome (settings : Settings) (expression : Value) :
    (∀ bindings occasion,
      (∃ v, evaluateExpression settings expression bindings occasion = .ok v ∧ v.IsStorable) ∨
      (∃ error, evaluateExpression settings expression bindings occasion = .error (.error error)) ∨
      HasOverlongInteger settings expression ∧ ∃ error,
        evaluateExpression settings expression bindings occasion = .error (.numeral error)) ∧
    (∀ known, (∃ report, reportExpression settings expression known = .ok report) ∨
      HasOverlongInteger settings expression ∧
        ∃ error, reportExpression settings expression known = .error error) ∧
    (HasOverlongInteger settings expression →
      ∀ bindings occasion v,
        evaluateExpression settings expression bindings occasion ≠ .ok v) := by
  refine ⟨?_, ?_, ?_⟩
  · intro bindings occasion
    cases result : evaluateExpression settings expression bindings occasion with
    | ok v =>
      obtain ⟨_, _, onward⟩ := Except.bind_eq_ok_iff.mp result
      obtain ⟨w, _, stored⟩ := Except.bind_eq_ok_iff.mp onward
      exact Or.inl ⟨v, rfl, isStorable_of_storable (Except.mapError_eq_ok_iff.mp stored)⟩
    | error interruption =>
      cases interruption with
      | error error => exact Or.inr (Or.inl ⟨error, rfl⟩)
      | numeral error =>
        refine Or.inr (Or.inr ⟨?_, error, rfl⟩)
        rcases Except.bind_eq_error_iff.mp result with static | ⟨_, _, onward⟩
        · exact hasOverlongInteger_of_numeral static
        rcases Except.bind_eq_error_iff.mp onward with failed | ⟨_, _, refused⟩
        · obtain ⟨_, _, other⟩ := Except.mapError_eq_error_iff.mp failed
          cases other
        · obtain ⟨_, _, other⟩ := Except.mapError_eq_error_iff.mp refused
          cases other
  · intro known
    unfold reportExpression
    split
    · next error interrupted =>
      exact Or.inr ⟨hasOverlongInteger_of_numeral interrupted, error, rfl⟩
    · exact Or.inl ⟨_, rfl⟩
    · split
      · exact Or.inl ⟨_, rfl⟩
      · split <;> exact Or.inl ⟨_, rfl⟩
  · intro overlong bindings occasion v result
    obtain ⟨e, checked, _⟩ := Except.bind_eq_ok_iff.mp result
    exact not_hasOverlongInteger_of_checkExpression checked overlong

/-! ### Expressions that are one long integer -/

/-- An integer in front that is not converted interrupts every level of the grammar. -/
theorem parseTokens_int_cons {t : Token} {rest : List Token} {error : NumeralError}
    (isInt : t.kind = .int) (refused : Text.readDecimal t.text.toList = .error error) :
    parseTokens (t :: rest) = .error (.numeral error) := by
  generalize inside : Parser.nested 31 = inner
  have primary : Parser.primary inner (t :: rest) = .error (.numeral error) := by
    simp [Parser.primary, Parser.current, isInt, Parser.literal?, Parser.integerLiteral, refused,
      bind, Except.bind]
  have call : Parser.callOrPrimary inner (t :: rest) = .error (.numeral error) := by
    unfold Parser.callOrPrimary
    split
    · next first _ _ _ _ same =>
      cases same
      rw [if_neg (by rw [isInt]; simp)]
      exact primary
    · exact primary
  have noOperator : Parser.unaryOp? (Parser.current (t :: rest)).kind = none := by
    simp [Parser.current, isInt, Parser.unaryOp?]
  have unary : Parser.unary inner (t :: rest) = .error (.numeral error) := by
    simp [Parser.unary, noOperator, Parser.power, Parser.access, call, bind, Except.bind]
  have conditional : Parser.conditional inner (t :: rest) = .error (.numeral error) := by
    simp [Parser.conditional, Parser.nullish, Parser.or, Parser.and, Parser.equality,
      Parser.relational, Parser.additive, Parser.multiply, Parser.chain, unary, bind, Except.bind]
  have outermost : (Parser.nested maxNesting).expr = Parser.conditional inner := by
    rw [← inside]
    rfl
  rw [parseTokens, outermost, conditional]
  rfl

theorem isBalanced_of_isDigit {ds : List Char} (digits : ∀ c ∈ ds, c.isDigit = true) :
    isBalanced (String.ofList ds) = true := by
  have plain : ∀ c ∈ ds, c ∉ marks := fun c member => not_mem_marks (by decide) (digits c member)
  rw [isBalanced, String.toList_ofList]
  exact (BalanceState.scans_of_not_mem_marks plain []).mpr .nil

/-- An expression that is one overlong integer interrupts the checks. -/
theorem checkExpression_digits {ds : List Char} (digits : ∀ c ∈ ds, c.isDigit = true)
    (long : digitLimit < ds.length) (within : ds.length ≤ settings.maxExpressionLength) :
    checkExpression settings (.text (String.ofList ds)) =
      .error (.numeral (.reading ds.length)) := by
  have ne : ds ≠ [] := by
    rintro rfl
    exact absurd long (by decide)
  have notBlank : Text.isBlankText ds = false := by
    cases ds with
    | nil => exact absurd rfl ne
    | cons c s =>
      have place := Lexer.toNat_of_isDigit (digits c List.mem_cons_self)
      have visible := (Lexer.plain_of_toNat (c := c) (by omega)).1
      simp [Text.isBlankText, visible]
  have shape : expressionText settings (.text (String.ofList ds)) = .ok (String.ofList ds) := by
    simp [expressionText, notBlank, within, isBalanced_of_isDigit digits]
  have ends : Lexer.EndsNumber [] := by
    refine ⟨DecimalLiteral.endsLiteral_nil, ?_⟩
    intro c s same
    cases same
  obtain ⟨q, read⟩ := Lexer.reads_digits (p := 0) digits ne ends
  have tokenized : tokenize (String.ofList ds) =
      .ok [⟨.int, String.ofList ds, 0⟩, Token.eof q] := by
    rw [List.append_nil] at read
    rw [tokenize, String.toList_ofList, read, Lexer.tokensFrom]
    rfl
  have screened : screenedTokens (String.ofList ds) =
      .ok [⟨.int, String.ofList ds, 0⟩, Token.eof q] := by
    rw [screenedTokens, tokenized]
    rfl
  have refused : Text.readDecimal (String.ofList ds).toList = .error (.reading ds.length) := by
    rw [String.toList_ofList, Text.readDecimal, if_neg (Nat.not_le.mpr long)]
  have parsed : parseTokens [⟨.int, String.ofList ds, 0⟩, Token.eof q] =
      .error (.numeral (.reading ds.length)) := parseTokens_int_cons rfl refused
  rw [checkExpression, shape]
  change (screenedTokens (String.ofList ds)).mapError Interruption.error >>= screenedExpr = _
  rw [screened]
  change screenedExpr _ = _
  rw [screenedExpr, parsed]

end Outcomes

/-- With a limit of 5000 characters, an expression of 4301 ones is neither accepted nor refused:
    its evaluation and its check are both interrupted. -/
theorem evaluateExpression_ones :
    evaluateExpression { maxExpressionLength := 5000 }
        (.text (String.ofList (List.replicate 4301 '1'))) [] = .error (.numeral (.reading 4301)) ∧
      reportExpression { maxExpressionLength := 5000 }
        (.text (String.ofList (List.replicate 4301 '1'))) none = .error (.reading 4301) := by
  have length : (List.replicate 4301 '1').length = 4301 := List.length_replicate
  have digits : ∀ c ∈ List.replicate 4301 '1', c.isDigit = true := by
    intro c member
    rw [List.eq_of_mem_replicate member]
    rfl
  have long : digitLimit < (List.replicate 4301 '1').length := by
    rw [length]
    decide
  have checked : checkExpression { maxExpressionLength := 5000 }
      (.text (String.ofList (List.replicate 4301 '1'))) =
        .error (.numeral (.reading (List.replicate 4301 '1').length)) := by
    refine checkExpression_digits digits long ?_
    rw [length]
    decide
  rw [length] at checked
  constructor
  · rw [evaluateExpression, checked]
    rfl
  · rw [reportExpression, checked]

end FormEngine
