/-
  FormEngine/Proofs/Expression/Reading.lean
  =========================================
  **The parser reads every phrase of the grammar.**

  Whatever stands after a phrase, the parser returns the tree of the phrase if
  enough levels are left for its nesting, and complains of the nesting otherwise
  (`Derives.completes`); it needs only that the next token does not go on with the
  phrase.  How far a token goes on with what stands before it is a number, its
  `tightness`: a phrase of a category ends before every token that binds looser
  than the category.

  Chains of operators and accesses grow to the left in the grammar, whereas the
  parser collects them from left to right.  So these two categories are followed up
  to the point where the parser is about to look for one more operator or access.
-/
import FormEngine.Proofs.Expression.Grammar
import FormEngine.Proofs.Outcome

namespace FormEngine

/-- How tightly a token binds to what stands before it; zero if it goes on with nothing. -/
def TokenKind.tightness : TokenKind → Nat
  | .question => 1
  | .nullish => 2
  | .or => 3
  | .and => 4
  | .eq | .ne | .strictEq | .strictNe => 5
  | .lt | .gt | .le | .ge => 6
  | .plus | .minus => 7
  | .star | .slash | .percent => 8
  | .starstar => 9
  | .dot | .lbracket | .lparen => 10
  | _ => 0

namespace Grammar

/-! ### Levels of operators -/

def Level.tightness : Level → Nat
  | .nullish => 2
  | .or => 3
  | .and => 4
  | .equality => 5
  | .relational => 6
  | .additive => 7
  | .multiply => 8

/-- How tightly an operand of the level is bound. -/
def Level.operandTightness (level : Level) : Nat := level.tightness + 1

theorem tightness_of_operator? {level : Level} {kind : TokenKind} {op : BinaryOp}
    (h : level.operator? kind = some op) : kind.tightness = level.tightness := by
  unfold Level.operator? at h
  split at h <;> first | rfl | cases h

theorem operator?_eq_none {level : Level} {kind : TokenKind}
    (looser : kind.tightness < level.tightness) : level.operator? kind = none := by
  cases h : level.operator? kind with
  | none => rfl
  | some op =>
    have same := tightness_of_operator? h
    omega

/-- The parser's table of a level. -/
def Level.table : Level → TokenKind → Option BinaryOp
  | .nullish => Parser.nullishOp?
  | .or => Parser.orOp?
  | .and => Parser.andOp?
  | .equality => Parser.equalityOp?
  | .relational => Parser.relationalOp?
  | .additive => Parser.additiveOp?
  | .multiply => Parser.multiplyOp?

theorem table_eq (level : Level) (kind : TokenKind) : level.table kind = level.operator? kind := by
  cases level <;> cases kind <;> rfl

theorem unaryOp?_eq (kind : TokenKind) : Parser.unaryOp? kind = unaryOperator? kind := by
  cases kind <;> rfl

/-- The parser's reader for the operands of a level. -/
def Level.operandReader (inner : Parser.Nested) : Level → TokenReader Expr
  | .nullish => Parser.or inner
  | .or => Parser.and inner
  | .and => Parser.equality inner
  | .equality => Parser.relational inner
  | .relational => Parser.additive inner
  | .additive => Parser.multiply inner
  | .multiply => Parser.unary inner

/-- The parser's reader for a level. -/
def Level.reader (inner : Parser.Nested) (level : Level) : TokenReader Expr :=
  Parser.chain level.table (level.operandReader inner)

end Grammar

namespace Parser

open Grammar

variable {α β : Type} {levels m n : Nat} {ts us rest : List Token} {t : Token} {e : Expr}

/-! ### Results within a number of levels -/

/-- The reader gave up because of the nesting. -/
def TooDeep (result : Except ParseFailure α) : Prop :=
  ∃ position, result = fail .tooDeep position

/-- The result of something nested `n` deep with `levels` levels left: as `good` says, or a
    complaint about the nesting. -/
def Within (levels n : Nat) (result : Except ParseFailure α)
    (good : Except ParseFailure α → Prop) : Prop :=
  (n ≤ levels → good result) ∧ (levels < n → TooDeep result)

/-- The value `a`, unless the nesting is too deep. -/
def Returns (levels n : Nat) (result : Except ParseFailure α) (a : α) : Prop :=
  Within levels n result (· = .ok a)

theorem Within.mono {result : Except ParseFailure α} {good better : Except ParseFailure α → Prop}
    (h : Within levels n result good) (implies : good result → better result) :
    Within levels n result better :=
  ⟨fun fits => implies (h.1 fits), h.2⟩

theorem Within.next {result : Except ParseFailure α} {good better : Except ParseFailure α → Prop}
    (h : Within levels m result good) (onward : good result → Within levels n result better) :
    Within levels (max m n) result better := by
  constructor
  · intro fits
    exact (onward (h.1 (by omega))).1 (by omega)
  · intro deep
    by_cases first : levels < m
    · exact h.2 first
    · exact (onward (h.1 (by omega))).2 (by omega)

/-- Going on with a value that was read. -/
theorem Returns.bind {result : Except ParseFailure α} {a : α} (h : Returns levels n result a)
    (next : α → Except ParseFailure β) : Within levels n (result >>= next) (· = next a) := by
  constructor
  · intro fits
    rw [h.1 fits]
    rfl
  · intro deep
    obtain ⟨position, gaveUp⟩ := h.2 deep
    exact ⟨position, by rw [gaveUp]; rfl⟩

theorem Returns.andThen {result : Except ParseFailure α} {a : α} (h : Returns levels m result a)
    {next : α → Except ParseFailure β} {good : Except ParseFailure β → Prop}
    (onward : Within levels n (next a) good) : Within levels (max m n) (result >>= next) good := by
  refine (h.bind next).next (fun same => ?_)
  rw [same]
  exact onward

theorem Returns.ok (a : α) : Returns levels 0 (.ok a : Except ParseFailure α) a :=
  ⟨fun _ => rfl, fun deep => absurd deep (Nat.not_lt_zero _)⟩

/-- What is read one level deeper is nested one level deeper. -/
theorem returns_succ {f g : Nat → Except ParseFailure α} {a : α} (none : TooDeep (f 0))
    (deeper : ∀ levels, f (levels + 1) = g levels) (h : ∀ levels, Returns levels n (g levels) a) :
    Returns levels (n + 1) (f levels) a := by
  cases levels with
  | zero => exact ⟨fun fits => absurd fits (Nat.not_succ_le_zero n), fun _ => none⟩
  | succ levels =>
    rw [deeper]
    exact ⟨fun fits => (h levels).1 (Nat.le_of_succ_le_succ fits),
      fun deep => (h levels).2 (Nat.lt_of_succ_lt_succ deep)⟩

theorem returns_nested_expr {a : Expr × List Token}
    (h : ∀ levels, Returns levels n (conditional (nested levels) ts) a) :
    Returns levels (n + 1) ((nested levels).expr ts) a :=
  returns_succ (f := fun levels => (nested levels).expr ts) ⟨_, rfl⟩ (fun _ => rfl) h

theorem returns_nested_operand {a : Expr × List Token}
    (h : ∀ levels, Returns levels n (unary (nested levels) ts) a) :
    Returns levels (n + 1) ((nested levels).operand ts) a :=
  returns_succ (f := fun levels => (nested levels).operand ts) ⟨_, rfl⟩ (fun _ => rfl) h

/-! ### What follows a phrase -/

/-- The next token binds looser than `tightness`. -/
def Ends (tightness : Nat) (rest : List Token) : Prop := (current rest).kind.tightness < tightness

/-- The next tokens make no call of what stands before them. -/
def NoCall (rest : List Token) : Prop :=
  (current rest).kind ≠ .lparen ∧
    ∀ dot name paren later, rest = dot :: name :: paren :: later →
      ¬(dot.kind = .dot ∧ name.kind = .ident ∧ paren.kind = .lparen)

theorem Ends.mono {k l : Nat} (ends : Ends k rest) (le : k ≤ l) : Ends l rest :=
  Nat.lt_of_lt_of_le ends le

theorem ends_cons_of_kind {kind : TokenKind} {k : Nat} (h : t.kind = kind)
    (looser : kind.tightness < k) : Ends k (t :: rest) := by
  rw [← h] at looser
  exact looser

theorem Ends.ne {k : Nat} {kind : TokenKind} (ends : Ends k rest) (le : k ≤ kind.tightness) :
    (current rest).kind ≠ kind := by
  intro same
  unfold Ends at ends
  rw [same] at ends
  omega

theorem noCall_of_ends (ends : Ends 10 rest) : NoCall rest := by
  refine ⟨ends.ne (by decide), ?_⟩
  rintro dot name paren later rfl ⟨isDot, _, _⟩
  have notDot : (current (dot :: name :: paren :: later)).kind ≠ .dot := ends.ne (by decide)
  exact notDot isDot

theorem expect_cons {kind : TokenKind} (h : t.kind = kind) (ts : List Token) :
    expect kind (t :: ts) = .ok (t, ts) := by
  simp [expect, current, h]

/-! ### Completeness, category by category -/

/-- The parser reads the phrase, whatever stands after it. -/
def Completes : Category → List Token → Expr → Nat → Prop
  | .expr, ts, e, n => ∀ levels rest, Ends 1 rest →
    Returns levels n ((nested levels).expr (ts ++ rest)) (e, rest)
  | .conditional, ts, e, n => ∀ levels rest, Ends 1 rest →
    Returns levels n (conditional (nested levels) (ts ++ rest)) (e, rest)
  | .chain level, ts, e, n => ∀ levels rest, Ends level.operandTightness rest →
    Within levels n (level.reader (nested levels) (ts ++ rest)) (fun result =>
      ∃ fuel, rest.length < fuel ∧
        result = operands level.table (level.operandReader (nested levels)) fuel e rest)
  | .unary, ts, e, n => ∀ levels rest, Ends 9 rest →
    Returns levels n (unary (nested levels) (ts ++ rest)) (e, rest)
  | .power, ts, e, n => ∀ levels rest, Ends 9 rest →
    Returns levels n (power (nested levels) (ts ++ rest)) (e, rest)
  | .access, ts, e, n => ∀ levels rest, NoCall rest →
    Within levels n (access (nested levels) (ts ++ rest)) (fun result =>
      ∃ fuel, rest.length < fuel ∧ result = accesses (nested levels) fuel e rest)
  | .primary, ts, e, n => ∀ levels rest, NoCall rest →
    Returns levels n (callOrPrimary (nested levels) (ts ++ rest)) (e, rest)
  | .items, ts, e, n => ∀ es, e = .array es → ∀ levels rest fuel, Ends 1 rest →
    (current rest).kind ≠ .comma → ts.length < fuel →
    Returns levels n (commaSeparated (nested levels) fuel (ts ++ rest)) (es, rest)
  | .list, ts, e, n => ∀ es, e = .array es → ∀ levels close rest,
    close.kind = .rparen ∨ close.kind = .rbracket →
    Returns levels n (listUpTo (nested levels) close.kind (ts ++ close :: rest)) (es, rest)

theorem Completes.chain {level : Level} (h : Completes (.chain level) ts e n)
    (ends : Ends level.tightness rest) :
    Returns levels n (level.reader (nested levels) (ts ++ rest)) (e, rest) := by
  -- the loop sees in its first round that no operator of the level follows
  refine (h levels rest (ends.mono (Nat.le_succ _))).mono ?_
  rintro ⟨fuel, enough, result⟩
  obtain ⟨fuel, rfl⟩ : ∃ k, fuel = k + 1 := ⟨fuel - 1, by omega⟩
  rw [result, operands, table_eq, operator?_eq_none ends]

theorem Completes.operand {level : Level} (h : Completes level.operand ts e n)
    (ends : Ends level.operandTightness rest) :
    Returns levels n (level.operandReader (nested levels) (ts ++ rest)) (e, rest) := by
  cases level with
  | multiply => exact h levels rest ends
  | _ => exact Completes.chain h ends

theorem Completes.access (h : Completes .access ts e n) (ends : Ends 10 rest) :
    Returns levels n (access (nested levels) (ts ++ rest)) (e, rest) := by
  refine (h levels rest (noCall_of_ends ends)).mono ?_
  rintro ⟨fuel, enough, result⟩
  obtain ⟨fuel, rfl⟩ : ∃ k, fuel = k + 1 := ⟨fuel - 1, by omega⟩
  rw [result, accesses]
  split
  · next isDot => exact absurd isDot (ends.ne (by decide))
  · next isBracket => exact absurd isBracket (ends.ne (by decide))
  · next isParen => exact absurd isParen (ends.ne (by decide))
  · rfl

theorem completes_expr (body : Completes .conditional ts e n) : Completes .expr ts e (n + 1) :=
  fun _ rest ends => returns_nested_expr (fun levels => body levels rest ends)

theorem completes_condition (body : Completes (.chain .nullish) ts e n) :
    Completes .conditional ts e n := by
  intro levels rest ends
  refine ((body.chain (ends.mono (by decide))).bind _).mono (fun read => ?_)
  have plain : (current rest).kind ≠ .question := ends.ne (by decide)
  exact read.trans (by simp only [plain, if_false]; rfl)

theorem completes_conditional {cs es : List Token} {question colon : Token} {c t' e : Expr}
    {k : Nat} (condition : Completes (.chain .nullish) cs c k) (asks : question.kind = .question)
    (thenBranch : Completes .expr ts t' m) (parts : colon.kind = .colon)
    (elseBranch : Completes .conditional es e n) :
    Completes .conditional (cs ++ question :: (ts ++ colon :: es)) (.conditional c t' e)
      (max k (max m (n + 1))) := by
  intro levels rest ends
  have atQuestion : Ends 2 (question :: (ts ++ colon :: (es ++ rest))) :=
    ends_cons_of_kind asks (by decide)
  have atColon : Ends 1 (colon :: (es ++ rest)) := ends_cons_of_kind parts (by decide)
  -- the parser reads the branch after the colon as an expression, one level deeper
  have last : Returns levels (n + 1) ((nested levels).expr (es ++ rest)) (e, rest) :=
    returns_nested_expr (fun levels => elseBranch levels rest ends)
  simp only [List.append_assoc, List.cons_append]
  refine (condition.chain atQuestion).andThen ?_
  simp only [current, List.headD_cons, asks, if_true, List.tail_cons]
  refine (thenBranch levels _ atColon).andThen ?_
  simp only [expect_cons parts]
  exact (last.bind _).mono (fun read => read)

theorem completes_operand {level : Level} (body : Completes level.operand ts e n) :
    Completes (.chain level) ts e n := by
  intro levels rest ends
  refine ((body.operand ends).bind _).mono (fun read => ?_)
  exact ⟨rest.length + 1, Nat.lt_succ_self _, read⟩

theorem completes_binary {level : Level} {ls rs : List Token} {op : BinaryOp} {l r : Expr}
    (left : Completes (.chain level) ls l m) (operator : level.operator? t.kind = some op)
    (right : Completes level.operand rs r n) :
    Completes (.chain level) (ls ++ t :: rs) (.binary op l r) (max m n) := by
  intro levels rest ends
  have atOperator : Ends level.operandTightness (t :: (rs ++ rest)) := by
    have same := tightness_of_operator? operator
    exact ends_cons_of_kind rfl (by rw [same]; exact Nat.lt_succ_self _)
  simp only [List.append_assoc, List.cons_append]
  refine (left levels _ atOperator).next ?_
  rintro ⟨fuel, enough, read⟩
  obtain ⟨fuel, rfl⟩ : ∃ k, fuel = k + 1 := ⟨fuel - 1, by omega⟩
  simp only [List.length_cons, List.length_append] at enough
  rw [read, operands]
  simp only [current, List.headD_cons, table_eq, operator, List.tail_cons]
  exact ((right.operand ends).bind _).mono (fun read => ⟨fuel, by omega, read⟩)

theorem completes_power (phrase : Derives .power ts e n) (body : Completes .power ts e n) :
    Completes .unary ts e n := by
  intro levels rest ends
  obtain ⟨t, us, rfl, opens⟩ := phrase.begins
  have noOperator : unaryOp? t.kind = none := by
    rw [unaryOp?_eq]
    revert opens
    cases t.kind <;> decide
  have read := body levels rest ends
  rw [List.cons_append] at read ⊢
  simp only [Parser.unary, current, List.headD_cons, noOperator]
  exact read

theorem completes_unary {op : UnaryOp} (operator : unaryOperator? t.kind = some op)
    (operand : Completes .unary ts e n) : Completes .unary (t :: ts) (.unary op e) (n + 1) := by
  intro levels rest ends
  have deeper : Returns levels (n + 1) ((nested levels).operand (ts ++ rest)) (e, rest) :=
    returns_nested_operand (fun levels => operand levels rest ends)
  simp only [List.cons_append, Parser.unary, current, List.headD_cons, unaryOp?_eq, operator,
    List.tail_cons]
  exact (deeper.bind _).mono (fun read => read)

theorem completes_base (body : Completes .access ts e n) : Completes .power ts e n := by
  intro levels rest ends
  refine ((body.access (ends.mono (by decide))).bind _).mono (fun read => ?_)
  have plain : (current rest).kind ≠ .starstar := ends.ne (by decide)
  exact read.trans (by simp only [plain, if_false]; rfl)

theorem completes_pow {bs es : List Token} {b : Expr} (base : Completes .access bs b m)
    (raises : t.kind = .starstar) (exponent : Completes .unary es e n) :
    Completes .power (bs ++ t :: es) (.binary .pow b e) (max m (n + 1)) := by
  intro levels rest ends
  have atOperator : Ends 10 (t :: (es ++ rest)) := ends_cons_of_kind raises (by decide)
  have deeper : Returns levels (n + 1) ((nested levels).operand (es ++ rest)) (e, rest) :=
    returns_nested_operand (fun levels => exponent levels rest ends)
  simp only [List.append_assoc, List.cons_append]
  refine (base.access atOperator).andThen ?_
  simp only [current, List.headD_cons, raises, if_true, List.tail_cons]
  exact (deeper.bind _).mono (fun read => read)

/-! ### Accesses -/

theorem callOrPrimary_of_not_name {inner : Nested} (h : (current ts).kind ≠ .ident) :
    callOrPrimary inner ts = primary inner ts := by
  unfold callOrPrimary
  split
  · next space dot name paren later =>
    rw [if_neg]
    rintro ⟨isName, _⟩
    exact h isName
  · rfl

theorem callOrPrimary_of_noCall {inner : Nested} (h : NoCall rest) :
    callOrPrimary inner (t :: rest) = primary inner (t :: rest) := by
  unfold callOrPrimary
  split
  · next same =>
    cases same
    rw [if_neg]
    rintro ⟨_, isCall⟩
    exact h.2 _ _ _ _ rfl isCall
  · rfl

theorem completes_primary (body : Completes .primary ts e n) : Completes .access ts e n := by
  intro levels rest noCall
  refine ((body levels rest noCall).bind _).mono (fun read => ?_)
  exact ⟨rest.length + 1, Nat.lt_succ_self _, read⟩

theorem completes_call {space dot name paren close : Token} {arguments : List Expr}
    (isSpace : space.kind = .ident) (isDot : dot.kind = .dot) (isName : name.kind = .ident)
    (opens : paren.kind = .lparen) (inside : Completes .list ts (.array arguments) n)
    (closes : close.kind = .rparen) :
    Completes .access (space :: dot :: name :: paren :: (ts ++ [close]))
      (.call space.text name.text arguments) n := by
  intro levels rest noCall
  have read := inside arguments rfl levels close rest (Or.inl closes)
  have called : Returns levels n
      (callOrPrimary (nested levels) (space :: dot :: name :: paren :: (ts ++ close :: rest)))
      (.call space.text name.text arguments, rest) := by
    rw [closes] at read
    simp only [callOrPrimary, isSpace, isDot, isName, opens, and_self, if_true]
    exact (read.bind _).mono (fun read => read)
  simp only [List.cons_append, List.append_assoc, List.nil_append]
  refine (called.bind _).mono (fun read => ?_)
  exact ⟨rest.length + 1, Nat.lt_succ_self _, read⟩

theorem completes_member {dot name : Token} (target : Completes .access ts e n)
    (isDot : dot.kind = .dot) (isName : name.kind = .ident) :
    Completes .access (ts ++ [dot, name]) (.member e name.text) n := by
  intro levels rest noCall
  -- a parenthesis behind the name would make a call of a name before the point, and an error
  -- of anything else
  have atDot : NoCall (dot :: name :: rest) := by
    refine ⟨by simp [current, isDot], ?_⟩
    rintro _ _ paren later same ⟨_, _, isParen⟩
    cases same
    exact noCall.1 isParen
  simp only [List.append_assoc, List.cons_append, List.nil_append]
  refine (target levels _ atDot).mono ?_
  rintro ⟨fuel, enough, read⟩
  obtain ⟨fuel, rfl⟩ : ∃ k, fuel = k + 1 := ⟨fuel - 1, by omega⟩
  simp only [List.length_cons] at enough
  refine ⟨fuel, by omega, ?_⟩
  rw [read, accesses]
  simp only [current, List.headD_cons, isDot, List.tail_cons, expect_cons isName]
  exact if_neg noCall.1

theorem completes_index {is : List Token} {bracket close : Token} {i : Expr}
    (target : Completes .access ts e m) (opens : bracket.kind = .lbracket)
    (place : Completes .expr is i n) (closes : close.kind = .rbracket) :
    Completes .access (ts ++ bracket :: (is ++ [close])) (.index e i) (max m n) := by
  intro levels rest noCall
  have atBracket : NoCall (bracket :: (is ++ close :: rest)) := by
    refine ⟨by simp [current, opens], ?_⟩
    rintro dot _ _ _ same ⟨isDot, _, _⟩
    rw [← (List.cons.inj same).1, opens] at isDot
    cases isDot
  have atClose : Ends 1 (close :: rest) := ends_cons_of_kind closes (by decide)
  simp only [List.append_assoc, List.cons_append, List.nil_append]
  refine (target levels _ atBracket).next ?_
  rintro ⟨fuel, enough, read⟩
  obtain ⟨fuel, rfl⟩ : ∃ k, fuel = k + 1 := ⟨fuel - 1, by omega⟩
  simp only [List.length_cons, List.length_append] at enough
  rw [read, accesses]
  simp only [current, List.headD_cons, opens, List.tail_cons]
  refine ((place levels _ atClose).bind _).mono (fun read => ⟨fuel, by omega, ?_⟩)
  rw [read]
  simp only [expect_cons closes]
  rfl

/-! ### Primary expressions -/

theorem literal?_of_writes {value : Literal} (h : t.Writes value) :
    literal? t = some (.ok value) := by
  cases h with
  | integer kind converted => simp [literal?, kind, integerLiteral, converted]
  | decimal kind scanned => simp [literal?, kind, floatLiteral, scanned]
  | text kind => simp [literal?, kind]
  | true kind => simp [literal?, kind]
  | false kind => simp [literal?, kind]
  | null kind => simp [literal?, kind]
  | undefined kind => simp [literal?, kind]
  | nan kind => simp [literal?, kind]
  | infinity kind => simp [literal?, kind]

theorem primary_of_literal? {inner : Nested} {value : Literal}
    (h : literal? t = some (.ok value)) :
    primary inner (t :: rest) = .ok (.literal value, rest) := by
  unfold primary
  simp only [current, List.headD_cons, List.tail_cons]
  split
  · next kind => simp [literal?, kind] at h
  · next kind => simp [literal?, kind] at h
  · next kind => simp [literal?, kind] at h
  · rw [h]
    rfl

theorem completes_literal {value : Literal} (writes : t.Writes value) :
    Completes .primary [t] (.literal value) 0 := by
  intro levels rest _
  have found := literal?_of_writes writes
  have plain : (current (t :: rest)).kind ≠ .ident := by
    intro isName
    change t.kind = .ident at isName
    simp [literal?, isName] at found
  rw [List.singleton_append, callOrPrimary_of_not_name plain, primary_of_literal? found]
  exact Returns.ok _

theorem completes_identifier (isName : t.kind = .ident) :
    Completes .primary [t] (.identifier t.text) 0 := by
  intro levels rest noCall
  have read : primary (nested levels) (t :: rest) = .ok (.identifier t.text, rest) := by
    simp [primary, current, isName]
  rw [List.singleton_append, callOrPrimary_of_noCall noCall, read]
  exact Returns.ok _

theorem completes_parenthesised {paren close : Token} (opens : paren.kind = .lparen)
    (inside : Completes .expr ts e n) (closes : close.kind = .rparen) :
    Completes .primary (paren :: (ts ++ [close])) e n := by
  intro levels rest _
  have atClose : Ends 1 (close :: rest) := ends_cons_of_kind closes (by decide)
  simp only [List.cons_append, List.append_assoc, List.nil_append]
  rw [callOrPrimary_of_not_name (by simp [current, opens])]
  simp only [primary, current, List.headD_cons, opens, List.tail_cons]
  refine ((inside levels _ atClose).bind _).mono (fun read => ?_)
  rw [read]
  simp only [expect_cons closes]
  rfl

theorem completes_array {bracket close : Token} {es : List Expr} (opens : bracket.kind = .lbracket)
    (inside : Completes .list ts (.array es) n) (closes : close.kind = .rbracket) :
    Completes .primary (bracket :: (ts ++ [close])) (.array es) n := by
  intro levels rest _
  have read := inside es rfl levels close rest (Or.inr closes)
  rw [closes] at read
  simp only [List.cons_append, List.append_assoc, List.nil_append]
  rw [callOrPrimary_of_not_name (by simp [current, opens])]
  simp only [primary, current, List.headD_cons, opens, List.tail_cons]
  exact (read.bind _).mono (fun read => read)

/-! ### Lists of expressions -/

theorem completes_item (only : Completes .expr ts e n) : Completes .items ts (.array [e]) n := by
  intro es same levels rest fuel ends noComma enough
  cases same
  obtain ⟨fuel, rfl⟩ : ∃ k, fuel = k + 1 := ⟨fuel - 1, by omega⟩
  rw [commaSeparated]
  refine ((only levels rest ends).bind _).mono (fun read => ?_)
  exact read.trans (by simp only [noComma, if_false]; rfl)

theorem completes_cons {comma : Token} {es : List Expr} (first : Completes .expr ts e m)
    (parts : comma.kind = .comma) (others : Completes .items us (.array es) n) :
    Completes .items (ts ++ comma :: us) (.array (e :: es)) (max m n) := by
  intro all same levels rest fuel ends noComma enough
  cases same
  obtain ⟨fuel, rfl⟩ : ∃ k, fuel = k + 1 := ⟨fuel - 1, by omega⟩
  have atComma : Ends 1 (comma :: (us ++ rest)) := ends_cons_of_kind parts (by decide)
  simp only [List.length_append, List.length_cons] at enough
  simp only [List.append_assoc, List.cons_append]
  rw [commaSeparated]
  refine (first levels _ atComma).andThen ?_
  simp only [current, List.headD_cons, parts, if_true, List.tail_cons]
  have read := others es rfl levels rest fuel ends noComma (by omega)
  exact (read.bind _).mono (fun read => read)

theorem completes_empty : Completes .list [] (.array []) 0 := by
  intro es same levels close rest _
  cases same
  have closed : listUpTo (nested levels) close.kind (close :: rest) = .ok ([], rest) := by
    simp only [listUpTo, current, List.headD_cons, if_true, expect_cons]
    rfl
  rw [List.nil_append, closed]
  exact Returns.ok _

theorem completes_list {es : List Expr} (phrase : Derives .items ts (.array es) n)
    (items : Completes .items ts (.array es) n) : Completes .list ts (.array es) n := by
  intro all same levels close rest closes
  cases same
  obtain ⟨t, us, rfl, opens⟩ := phrase.begins
  -- no phrase opens with the closing bracket, so this is not taken for the empty list
  have notClosed : t.kind ≠ close.kind := by
    intro same
    rw [same] at opens
    rcases closes with isParen | isBracket
    · rw [isParen] at opens
      revert opens
      decide
    · rw [isBracket] at opens
      revert opens
      decide
  have atClose : Ends 1 (close :: rest) := by
    rcases closes with isParen | isBracket
    · exact ends_cons_of_kind isParen (by decide)
    · exact ends_cons_of_kind isBracket (by decide)
  have noComma : (current (close :: rest)).kind ≠ .comma := by
    rcases closes with isParen | isBracket
    · simp [current, isParen]
    · simp [current, isBracket]
  have enough : (t :: us).length < ((t :: us) ++ close :: rest).length + 1 := by
    simp only [List.length_append]
    omega
  have read := items es rfl levels (close :: rest) _ atClose noComma enough
  rw [listUpTo, if_neg (by simpa [current] using notClosed)]
  refine (read.bind _).mono (fun read => ?_)
  rw [read]
  simp only [expect_cons rfl]
  rfl

/-- **Completeness**: the parser reads every phrase. -/
theorem completes_of_derives {c : Category} (h : Derives c ts e n) : Completes c ts e n := by
  induction h with
  | expr _ body => exact completes_expr body
  | condition _ body => exact completes_condition body
  | conditional _ asks _ parts _ condition thenBranch elseBranch =>
    exact completes_conditional condition asks thenBranch parts elseBranch
  | operand _ body => exact completes_operand body
  | binary _ operator _ left right => exact completes_binary left operator right
  | power phrase body => exact completes_power phrase body
  | unary operator _ operand => exact completes_unary operator operand
  | base _ body => exact completes_base body
  | pow _ raises _ base exponent => exact completes_pow base raises exponent
  | primary _ body => exact completes_primary body
  | call isSpace isDot isName opens _ closes inside =>
    exact completes_call isSpace isDot isName opens inside closes
  | member _ isDot isName target => exact completes_member target isDot isName
  | index _ opens _ closes target place => exact completes_index target opens place closes
  | literal writes => exact completes_literal writes
  | identifier isName => exact completes_identifier isName
  | parenthesised opens _ closes inside => exact completes_parenthesised opens inside closes
  | array opens _ closes inside => exact completes_array opens inside closes
  | item _ only => exact completes_item only
  | cons _ parts _ first others => exact completes_cons first parts others
  | empty => exact completes_empty
  | list phrase items => exact completes_list phrase items

end Parser

end FormEngine
