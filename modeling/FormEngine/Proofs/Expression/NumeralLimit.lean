/-
  FormEngine/Proofs/Expression/NumeralLimit.lean
  ==============================================
  **Short expressions never meet the limit on numerals.**

  The static stages of an expression can be interrupted in one way that is no
  error of theirs: by an integer with more digits than are converted.  A numeral is
  a stretch of the text, so a text within the limit holds none that long.

  The parser is followed level by level.  `Fits` says that a reader was not
  interrupted and left tokens that still keep the limit; each level preserves it if
  the level below does, and `fits_nested` closes the recursion.
-/
import FormEngine.Derived.Computation
import FormEngine.Proofs.Expression.Spans
import FormEngine.Proofs.Outcome

namespace FormEngine

/-- No integer among the tokens has more digits than are converted. -/
def NumeralsFit (ts : List Token) : Prop :=
  ∀ t ∈ ts, t.kind = .int → t.text.toList.length ≤ digitLimit

theorem NumeralsFit.tail {ts : List Token} (fit : NumeralsFit ts) : NumeralsFit ts.tail :=
  fun t member => fit t (List.mem_of_mem_tail member)

theorem numeralsFit_of_tokenize {source : String} {ts : List Token}
    (short : source.length ≤ digitLimit) (h : tokenize source = .ok ts) : NumeralsFit ts := by
  intro t member isInt
  have plain : t.kind ≠ .string := by
    rw [isInt]
    decide
  have within := (Lexer.isInfix_tokensFrom h t member plain).length_le
  rw [String.length_toList] at within
  exact within.trans short

theorem numeralsFit_of_screenedTokens {source : String} {ts : List Token}
    (short : source.length ≤ digitLimit) (h : screenedTokens source = .ok ts) : NumeralsFit ts := by
  unfold screenedTokens at h
  split at h
  · cases h
  · next found =>
    split at h
    · cases h
    · cases h
      exact numeralsFit_of_tokenize short found

namespace Parser

/-! ### Reading without interruption -/

/-- Reading was not interrupted by a numeral, and the tokens that remain keep the limit. -/
def Fits {α : Type} : Except ParseFailure (α × List Token) → Prop
  | .ok (_, rest) => NumeralsFit rest
  | .error (.rejected _) => True
  | .error (.numeral _) => False

/-- A reader that is never interrupted on tokens that keep the limit. -/
def Uninterrupted {α : Type} (reader : TokenReader α) : Prop :=
  ∀ ts, NumeralsFit ts → Fits (reader ts)

variable {α β : Type} {ts : List Token}

theorem Fits.bind {result : Except ParseFailure (α × List Token)}
    {next : α × List Token → Except ParseFailure (β × List Token)} (fits : Fits result)
    (onward : ∀ a rest, NumeralsFit rest → Fits (next (a, rest))) : Fits (result >>= next) := by
  cases result with
  | ok found =>
    obtain ⟨a, rest⟩ := found
    exact onward a rest fits
  | error failure =>
    cases failure with
    | rejected e => trivial
    | numeral e => exact fits.elim

theorem fits_fail (fault : ParseFault) (position : Nat) :
    Fits (fail fault position : Except ParseFailure (α × List Token)) := trivial

theorem uninterrupted_expect (kind : TokenKind) : Uninterrupted (expect kind) := by
  intro ts fit
  unfold expect
  split
  · exact fit.tail
  · exact fits_fail _ _

theorem current_text_le (fit : NumeralsFit ts) (isInt : (current ts).kind = .int) :
    (current ts).text.toList.length ≤ digitLimit := by
  cases ts with
  | nil => cases isInt
  | cons t ts => exact fit t List.mem_cons_self isInt

theorem literal?_ne_numeral (fit : NumeralsFit ts) (e : NumeralError) :
    literal? (current ts) ≠ some (.error (.numeral e)) := by
  intro interrupted
  cases kind : (current ts).kind with
  | int =>
    have converted := Text.readDecimal_of_length_le (current_text_le fit kind)
    simp [literal?, kind, integerLiteral, converted] at interrupted
  | _ => simp [literal?, kind] at interrupted

/-! ### The levels of the grammar -/

section Levels

variable {inner : Nested} (expr : Uninterrupted inner.expr) (operand : Uninterrupted inner.operand)

include expr in
theorem fits_commaSeparated (fuel : Nat) : Uninterrupted (commaSeparated inner fuel) := by
  induction fuel with
  | zero =>
    intro ts _
    exact List.forall_mem_nil _
  | succ fuel ih =>
    intro ts fit
    refine Fits.bind (expr ts fit) (fun e rest fit => ?_)
    dsimp only
    split
    · exact Fits.bind (ih rest.tail fit.tail) (fun _ _ fit => fit)
    · exact fit

include expr in
theorem fits_listUpTo (close : TokenKind) : Uninterrupted (listUpTo inner close) := by
  intro ts fit
  unfold listUpTo
  split
  · exact Fits.bind (uninterrupted_expect close ts fit) (fun _ _ fit => fit)
  · refine Fits.bind (fits_commaSeparated expr _ ts fit) (fun items rest fit => ?_)
    exact Fits.bind (uninterrupted_expect close rest fit) (fun _ _ fit => fit)

include expr in
theorem fits_primary : Uninterrupted (primary inner) := by
  intro ts fit
  unfold primary
  dsimp only
  split
  · refine Fits.bind (expr ts.tail fit.tail) (fun e rest fit => ?_)
    exact Fits.bind (uninterrupted_expect .rparen rest fit) (fun _ _ fit => fit)
  · exact Fits.bind (fits_listUpTo expr .rbracket ts.tail fit.tail) (fun _ _ fit => fit)
  · exact fit.tail
  · split
    · next value found =>
      cases value with
      | ok v => exact fit.tail
      | error failure =>
        cases failure with
        | rejected e => trivial
        | numeral e => exact absurd found (literal?_ne_numeral fit e)
    · exact fits_fail _ _

include expr in
theorem fits_callOrPrimary : Uninterrupted (callOrPrimary inner) := by
  intro ts fit
  unfold callOrPrimary
  split
  · next space dot name paren rest =>
    split
    · have fitRest : NumeralsFit rest := fit.tail.tail.tail.tail
      exact Fits.bind (fits_listUpTo expr .rparen rest fitRest) (fun _ _ fit => fit)
    · exact fits_primary expr _ fit
  · exact fits_primary expr _ fit

include expr in
theorem fits_accesses (fuel : Nat) (e : Expr) : Uninterrupted (accesses inner fuel e) := by
  induction fuel generalizing e with
  | zero =>
    intro ts fit
    exact fit
  | succ fuel ih =>
    intro ts fit
    unfold accesses
    split
    · refine Fits.bind (uninterrupted_expect .ident ts.tail fit.tail) (fun property rest fit => ?_)
      dsimp only
      split
      · exact fits_fail _ _
      · exact ih _ rest fit
    · refine Fits.bind (expr ts.tail fit.tail) (fun index rest fit => ?_)
      refine Fits.bind (uninterrupted_expect .rbracket rest fit) (fun _ rest fit => ?_)
      exact ih _ rest fit
    · exact fits_fail _ _
    · exact fit

include expr in
theorem fits_access : Uninterrupted (access inner) := by
  intro ts fit
  refine Fits.bind (fits_callOrPrimary expr ts fit) (fun e rest fit => ?_)
  exact fits_accesses expr _ e rest fit

include expr operand in
theorem fits_power : Uninterrupted (power inner) := by
  intro ts fit
  refine Fits.bind (fits_access expr ts fit) (fun base rest fit => ?_)
  dsimp only
  split
  · exact Fits.bind (operand rest.tail fit.tail) (fun _ _ fit => fit)
  · exact fit

include expr operand in
theorem fits_unary : Uninterrupted (unary inner) := by
  intro ts fit
  unfold unary
  split
  · exact Fits.bind (operand ts.tail fit.tail) (fun _ _ fit => fit)
  · exact fits_power expr operand ts fit

end Levels

theorem fits_operands {op? : TokenKind → Option BinaryOp} {operand : TokenReader Expr}
    (fits : Uninterrupted operand) (fuel : Nat) (left : Expr) :
    Uninterrupted (operands op? operand fuel left) := by
  induction fuel generalizing left with
  | zero =>
    intro ts fit
    exact fit
  | succ fuel ih =>
    intro ts fit
    unfold operands
    split
    · exact fit
    · refine Fits.bind (fits ts.tail fit.tail) (fun right rest fit => ?_)
      exact ih _ rest fit

theorem fits_chain {op? : TokenKind → Option BinaryOp} {operand : TokenReader Expr}
    (fits : Uninterrupted operand) : Uninterrupted (chain op? operand) := by
  intro ts fit
  refine Fits.bind (fits ts fit) (fun left rest fit => ?_)
  exact fits_operands fits _ left rest fit

/-- The loosest operators of a level are read without interruption if the next level is. -/
theorem fits_conditional {inner : Nested} (expr : Uninterrupted inner.expr)
    (operand : Uninterrupted inner.operand) : Uninterrupted (conditional inner) := by
  intro ts fit
  have nullish : Uninterrupted (nullish inner) := fits_chain (fits_chain (fits_chain
    (fits_chain (fits_chain (fits_chain (fits_chain (fits_unary expr operand)))))))
  refine Fits.bind (nullish ts fit) (fun condition rest fit => ?_)
  dsimp only
  split
  · refine Fits.bind (expr rest.tail fit.tail) (fun thenBranch rest fit => ?_)
    refine Fits.bind (uninterrupted_expect .colon rest fit) (fun _ rest fit => ?_)
    exact Fits.bind (expr rest fit) (fun _ _ fit => fit)
  · exact fit

/-- However many levels remain, reading is not interrupted. -/
theorem fits_nested (levels : Nat) :
    Uninterrupted (nested levels).expr ∧ Uninterrupted (nested levels).operand := by
  induction levels with
  | zero => exact ⟨fun _ _ => fits_fail _ _, fun _ _ => fits_fail _ _⟩
  | succ levels ih => exact ⟨fits_conditional ih.1 ih.2, fits_unary ih.1 ih.2⟩

end Parser

theorem parseTokens_ne_numeral {ts : List Token} (fit : NumeralsFit ts) (e : NumeralError) :
    parseTokens ts ≠ .error (.numeral e) := by
  have fits := (Parser.fits_nested maxNesting).1 ts fit
  intro interrupted
  unfold parseTokens at interrupted
  cases result : (Parser.nested maxNesting).expr ts with
  | ok found =>
    rw [result] at interrupted
    change (if _ then _ else _) = _ at interrupted
    split at interrupted
    · cases interrupted
    · cases interrupted
  | error failure =>
    rw [result] at interrupted fits
    cases interrupted
    exact fits

/-! ### Expressions from outside -/

theorem expressionText_eq_ok_iff {settings : Settings} {expression : Value} {s : String} :
    expressionText settings expression = .ok s ↔
      expression = .text s ∧ s.length ≤ settings.maxExpressionLength ∧
        Text.isBlankText s.toList = false ∧ isBalanced s = true := by
  constructor
  · intro h
    unfold expressionText at h
    split at h
    · split at h
      · cases h
      · next visible =>
        split at h
        · cases h
        · next within =>
          split at h
          · cases h
          · next balanced =>
            cases h
            exact ⟨rfl, Nat.not_lt.mp within, by simpa using visible, by simpa using balanced⟩
    · cases h
  · rintro ⟨rfl, within, visible, balanced⟩
    simp [expressionText, within, visible, balanced]

section Outside

variable {settings : Settings} (short : settings.maxExpressionLength ≤ digitLimit)
include short

theorem length_le_of_expressionText {expression : Value} {s : String}
    (h : expressionText settings expression = .ok s) : s.length ≤ digitLimit :=
  (expressionText_eq_ok_iff.mp h).2.1.trans short

/-- Every expression is accepted or refused with a proper error. -/
theorem checkExpression_ne_numeral (expression : Value) (e : NumeralError) :
    checkExpression settings expression ≠ .error (.numeral e) := by
  intro interrupted
  rcases Except.bind_eq_error_iff.mp interrupted with refused | ⟨s, shape, interrupted⟩
  · obtain ⟨_, _, other⟩ := Except.mapError_eq_error_iff.mp refused
    cases other
  rcases Except.bind_eq_error_iff.mp interrupted with refused | ⟨ts, screened, interrupted⟩
  · obtain ⟨_, _, other⟩ := Except.mapError_eq_error_iff.mp refused
    cases other
  have within := length_le_of_expressionText short (Except.mapError_eq_ok_iff.mp shape)
  have fit := numeralsFit_of_screenedTokens within (Except.mapError_eq_ok_iff.mp screened)
  unfold screenedExpr at interrupted
  split at interrupted
  · cases interrupted
  · next failed => exact parseTokens_ne_numeral fit _ failed
  · split at interrupted
    · cases interrupted
    · cases interrupted

theorem evaluateExpression_ne_numeral (expression : Value) (bindings : Bindings)
    (occasion : Occasion) (e : NumeralError) :
    evaluateExpression settings expression bindings occasion ≠ .error (.numeral e) := by
  intro interrupted
  rcases Except.bind_eq_error_iff.mp interrupted with static | ⟨expr, _, interrupted⟩
  · exact checkExpression_ne_numeral short expression e static
  rcases Except.bind_eq_error_iff.mp interrupted with failed | ⟨v, _, interrupted⟩
  · obtain ⟨_, _, other⟩ := Except.mapError_eq_error_iff.mp failed
    cases other
  · obtain ⟨_, _, other⟩ := Except.mapError_eq_error_iff.mp interrupted
    cases other

/-- **Every computation has an outcome**, a value or a fault to be reported. -/
theorem exists_compute_eq_ok (d : Derivation) (aliases : Record String) (values : Record Value)
    (occasion : Occasion) : ∃ outcome, d.compute settings aliases values occasion = .ok outcome := by
  unfold Derivation.compute
  split
  · split
    · exact ⟨_, rfl⟩
    · split
      · exact ⟨_, rfl⟩
      · exact ⟨_, rfl⟩
      · next e interrupted => exact absurd interrupted (evaluateExpression_ne_numeral short _ _ _ e)
  · exact ⟨_, rfl⟩

end Outside

end FormEngine
