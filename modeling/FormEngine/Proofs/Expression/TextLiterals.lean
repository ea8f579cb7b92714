/-
  FormEngine/Proofs/Expression/TextLiterals.lean
  ==============================================
  **What a text literal says has no part in the checks.**

  Two texts are compared whose tokens are alike (`Token.Alike`): of the same kinds,
  and of the same text unless they are text literals.  The grammar lets a text
  literal stand for another wherever it occurs (`Derives.alike`), so one is parsed
  exactly if the other is, and the trees differ in text literals only; the screening
  of tokens looks at names and kinds, that of trees at calls and constants.  The
  checks of shape are the only ones that see characters, and these agree with the
  tokens unless there is a template quote, which no accepted expression has.
-/
import FormEngine.Proofs.Expression.Balance

namespace FormEngine

/-! ### Tokens -/

/-- The tokens agree in kind and, unless they are text literals, in text. -/
def Token.Alike (t u : Token) : Prop := t.kind = u.kind ∧ (t.kind ≠ .string → t.text = u.text)

namespace Token

variable {t u : Token} {kind : TokenKind} {name : String}

theorem Alike.symm (h : t.Alike u) : u.Alike t := by
  obtain ⟨kinds, texts⟩ := h
  exact ⟨kinds.symm, fun plain => (texts (kinds.trans_ne plain)).symm⟩

theorem Alike.kind_eq (h : t.Alike u) (is : t.kind = kind) : u.kind = kind := h.1.symm.trans is

theorem Alike.text_eq (h : t.Alike u) (isName : t.kind = .ident) : u.text = t.text := by
  refine (h.2 ?_).symm
  rw [isName]
  decide

end Token

section Alike

variable {ts us vs : List Token} {t : Token}

theorem forall₂_alike_symm (h : List.Forall₂ Token.Alike ts us) :
    List.Forall₂ Token.Alike us ts :=
  (h.imp (fun _ _ alike => alike.symm)).flip

theorem exists_of_forall₂_alike_append (h : List.Forall₂ Token.Alike (ts ++ us) vs) :
    ∃ ts' us', vs = ts' ++ us' ∧ List.Forall₂ Token.Alike ts ts' ∧
      List.Forall₂ Token.Alike us us' := by
  induction ts generalizing vs with
  | nil => exact ⟨[], vs, rfl, .nil, h⟩
  | cons t ts ih =>
    obtain ⟨u, rest, first, others, rfl⟩ := List.forall₂_cons_left_iff.mp h
    obtain ⟨ts', us', rfl, left, right⟩ := ih others
    exact ⟨u :: ts', us', rfl, .cons first left, right⟩

theorem exists_of_forall₂_alike_append_cons
    (h : List.Forall₂ Token.Alike (ts ++ t :: us) vs) :
    ∃ ts' t' us', vs = ts' ++ t' :: us' ∧ List.Forall₂ Token.Alike ts ts' ∧ t.Alike t' ∧
      List.Forall₂ Token.Alike us us' := by
  obtain ⟨ts', rest, rfl, left, behind⟩ := exists_of_forall₂_alike_append h
  obtain ⟨t', us', middle, right, rfl⟩ := List.forall₂_cons_left_iff.mp behind
  exact ⟨ts', t', us', rfl, left, middle, right⟩

theorem map_kind_eq_of_alike (h : List.Forall₂ Token.Alike ts us) :
    ts.map Token.kind = us.map Token.kind := by
  induction h with
  | nil => rfl
  | cons alike _ ih => rw [List.map_cons, List.map_cons, alike.1, ih]

end Alike

/-! ### Trees -/

def Literal.withoutText : Literal → Literal
  | .text _ => .text ""
  | value => value

mutual

/-- The expression with every text literal made empty. -/
def Expr.withoutTexts : Expr → Expr
  | .literal value => .literal value.withoutText
  | .identifier name => .identifier name
  | .member target property => .member target.withoutTexts property
  | .index target place => .index target.withoutTexts place.withoutTexts
  | .call space name arguments => .call space name (Expr.listWithoutTexts arguments)
  | .array items => .array (Expr.listWithoutTexts items)
  | .binary op left right => .binary op left.withoutTexts right.withoutTexts
  | .unary op operand => .unary op operand.withoutTexts
  | .conditional condition thenBranch elseBranch =>
    .conditional condition.withoutTexts thenBranch.withoutTexts elseBranch.withoutTexts

def Expr.listWithoutTexts : List Expr → List Expr
  | [] => []
  | e :: rest => e.withoutTexts :: Expr.listWithoutTexts rest

end

namespace Expr

variable {e f : Expr} {es : List Expr}

theorem listWithoutTexts_eq_map (es : List Expr) : listWithoutTexts es = es.map withoutTexts := by
  induction es with
  | nil => rfl
  | cons e es ih => rw [listWithoutTexts, List.map_cons, ih]

theorem exists_of_withoutTexts_eq_array (h : f.withoutTexts = (array es).withoutTexts) :
    ∃ fs, f = .array fs ∧ listWithoutTexts fs = listWithoutTexts es := by
  cases f with
  | array fs => exact ⟨fs, rfl, array.inj h⟩
  | _ => cases h

theorem children_withoutTexts (e : Expr) :
    e.withoutTexts.children = e.children.map withoutTexts := by
  cases e <;> simp [withoutTexts, children, listWithoutTexts_eq_map]

theorem walkStack_withoutTexts (stack : List Expr) :
    walkStack (stack.map withoutTexts) = (walkStack stack).map withoutTexts := by
  induction stack using walkStack.induct with
  | case1 => simp [walkStack]
  | case2 e stack ih =>
    rw [List.map_cons, walkStack, walkStack, children_withoutTexts, ← List.map_append, ih,
      List.map_cons]

end Expr

/-! ### Screening -/

namespace Screening

variable {ts us : List Token}

theorem forbiddenNode?_withoutTexts (e : Expr) :
    forbiddenNode? e.withoutTexts = forbiddenNode? e := by
  cases e with
  | member target property => cases target <;> rfl
  | _ => rfl

/-- The screening of trees does not see text literals. -/
theorem screenExpr_withoutTexts (e : Expr) : screenExpr e.withoutTexts = screenExpr e := by
  have walked : e.withoutTexts.walk = e.walk.map Expr.withoutTexts :=
    Expr.walkStack_withoutTexts [e]
  rw [screenExpr, walked, List.findSome?_map]
  exact congrArg (e.walk.findSome? ·) (funext forbiddenNode?_withoutTexts)

theorem forbiddenToken?_eq_of_alike {t u : Token} (h : t.Alike u)
    (before after : Option TokenKind) :
    forbiddenToken? before t after = forbiddenToken? before u after := by
  by_cases isName : t.kind = .ident
  · rw [forbiddenToken?, forbiddenToken?, h.text_eq isName, h.1]
  · rw [h.1] at isName
    simp only [forbiddenToken?, isName, false_and, if_false, h.1]

/-- The screening of tokens does not see the text of text literals. -/
theorem screenTokens_eq_of_alike (h : List.Forall₂ Token.Alike ts us)
    (before : Option TokenKind) :
    (screenTokens before ts).map Prod.fst = (screenTokens before us).map Prod.fst := by
  induction h generalizing before with
  | nil => rfl
  | @cons t u ts us alike rest ih =>
    have next : ts.head?.map Token.kind = us.head?.map Token.kind := by
      cases rest with
      | nil => rfl
      | cons alike _ => exact congrArg some alike.1
    rw [screenTokens, screenTokens, forbiddenToken?_eq_of_alike alike, next, ← alike.1]
    split
    · rfl
    · exact ih (some t.kind)

end Screening

/-! ### Phrases -/

namespace Grammar

variable {c : Category} {ts us : List Token} {e : Expr} {n : Nat}

theorem exists_writes_of_alike {t u : Token} {value : Literal} (h : t.Writes value)
    (alike : t.Alike u) :
    ∃ value', u.Writes value' ∧ value'.withoutText = value.withoutText := by
  cases h with
  | integer isInt read =>
    rw [alike.2 (by rw [isInt]; decide)] at read
    exact ⟨_, .integer (alike.kind_eq isInt) read, rfl⟩
  | decimal isFloat scanned =>
    rw [alike.2 (by rw [isFloat]; decide)] at scanned
    exact ⟨_, .decimal (alike.kind_eq isFloat) scanned, rfl⟩
  | text isString => exact ⟨_, .text (alike.kind_eq isString), rfl⟩
  | true isTrue => exact ⟨_, .true (alike.kind_eq isTrue), rfl⟩
  | false isFalse => exact ⟨_, .false (alike.kind_eq isFalse), rfl⟩
  | null isNull => exact ⟨_, .null (alike.kind_eq isNull), rfl⟩
  | undefined isUndefined => exact ⟨_, .undefined (alike.kind_eq isUndefined), rfl⟩
  | nan isNaN => exact ⟨_, .nan (alike.kind_eq isNaN), rfl⟩
  | infinity isInfinity => exact ⟨_, .infinity (alike.kind_eq isInfinity), rfl⟩

/-- Tokens that are alike are phrases of the same categories, nested as deep, and their trees
    differ in text literals only. -/
theorem Derives.alike (h : Derives c ts e n) (alike : List.Forall₂ Token.Alike ts us) :
    ∃ f, Derives c us f n ∧ f.withoutTexts = e.withoutTexts := by
  induction h generalizing us with
  | expr _ ih =>
    obtain ⟨f, phrase, same⟩ := ih alike
    exact ⟨f, .expr phrase, same⟩
  | condition _ ih =>
    obtain ⟨f, phrase, same⟩ := ih alike
    exact ⟨f, .condition phrase, same⟩
  | conditional _ asks _ parts _ condition thenBranch elseBranch =>
    obtain ⟨cs, question, rest, rfl, onCondition, onQuestion, behind⟩ :=
      exists_of_forall₂_alike_append_cons alike
    obtain ⟨ts, colon, es, rfl, onThen, onColon, onElse⟩ :=
      exists_of_forall₂_alike_append_cons behind
    obtain ⟨c, first, sameCondition⟩ := condition onCondition
    obtain ⟨t, second, sameThen⟩ := thenBranch onThen
    obtain ⟨e, third, sameElse⟩ := elseBranch onElse
    refine ⟨.conditional c t e, .conditional first (onQuestion.kind_eq asks) second
      (onColon.kind_eq parts) third, ?_⟩
    simp only [Expr.withoutTexts, sameCondition, sameThen, sameElse]
  | operand _ ih =>
    obtain ⟨f, phrase, same⟩ := ih alike
    exact ⟨f, .operand phrase, same⟩
  | binary _ operator _ left right =>
    obtain ⟨ls, t, rs, rfl, onLeft, onOperator, onRight⟩ :=
      exists_of_forall₂_alike_append_cons alike
    obtain ⟨l, first, sameLeft⟩ := left onLeft
    obtain ⟨r, second, sameRight⟩ := right onRight
    rw [onOperator.1] at operator
    refine ⟨_, .binary first operator second, ?_⟩
    simp only [Expr.withoutTexts, sameLeft, sameRight]
  | power _ ih =>
    obtain ⟨f, phrase, same⟩ := ih alike
    exact ⟨f, .power phrase, same⟩
  | unary operator _ ih =>
    obtain _ | ⟨onOperator, onOperand⟩ := alike
    obtain ⟨f, phrase, same⟩ := ih onOperand
    rw [onOperator.1] at operator
    refine ⟨_, .unary operator phrase, ?_⟩
    simp only [Expr.withoutTexts, same]
  | base _ ih =>
    obtain ⟨f, phrase, same⟩ := ih alike
    exact ⟨f, .base phrase, same⟩
  | pow _ raises _ base exponent =>
    obtain ⟨bs, t, es, rfl, onBase, onOperator, onExponent⟩ :=
      exists_of_forall₂_alike_append_cons alike
    obtain ⟨b, first, sameBase⟩ := base onBase
    obtain ⟨e, second, sameExponent⟩ := exponent onExponent
    refine ⟨_, .pow first (onOperator.kind_eq raises) second, ?_⟩
    simp only [Expr.withoutTexts, sameBase, sameExponent]
  | primary _ ih =>
    obtain ⟨f, phrase, same⟩ := ih alike
    exact ⟨f, .primary phrase, same⟩
  | call isSpace isDot isName opens _ closes inside =>
    obtain _ | ⟨onSpace, _ | ⟨onDot, _ | ⟨onName, _ | ⟨onParen, behind⟩⟩⟩⟩ := alike
    obtain ⟨ts, close, rest, rfl, onArguments, onClose, atEnd⟩ :=
      exists_of_forall₂_alike_append_cons behind
    cases atEnd
    obtain ⟨f, phrase, sameList⟩ := inside onArguments
    obtain ⟨arguments, rfl, same⟩ := Expr.exists_of_withoutTexts_eq_array sameList
    refine ⟨_, .call (onSpace.kind_eq isSpace) (onDot.kind_eq isDot) (onName.kind_eq isName)
      (onParen.kind_eq opens) phrase (onClose.kind_eq closes), ?_⟩
    simp only [Expr.withoutTexts, onSpace.text_eq isSpace, onName.text_eq isName, same]
  | member _ isDot isName ih =>
    obtain ⟨ts, dot, rest, rfl, onTarget, onDot, behind⟩ :=
      exists_of_forall₂_alike_append_cons alike
    obtain _ | ⟨onName, _ | _⟩ := behind
    obtain ⟨f, phrase, same⟩ := ih onTarget
    refine ⟨_, .member phrase (onDot.kind_eq isDot) (onName.kind_eq isName), ?_⟩
    simp only [Expr.withoutTexts, same, onName.text_eq isName]
  | index _ opens _ closes target place =>
    obtain ⟨ts, bracket, rest, rfl, onTarget, onBracket, behind⟩ :=
      exists_of_forall₂_alike_append_cons alike
    obtain ⟨is, close, rest, rfl, onPlace, onClose, atEnd⟩ :=
      exists_of_forall₂_alike_append_cons behind
    cases atEnd
    obtain ⟨f, first, sameTarget⟩ := target onTarget
    obtain ⟨i, second, samePlace⟩ := place onPlace
    refine ⟨_, .index first (onBracket.kind_eq opens) second (onClose.kind_eq closes), ?_⟩
    simp only [Expr.withoutTexts, sameTarget, samePlace]
  | literal writes =>
    obtain _ | ⟨onLiteral, _ | _⟩ := alike
    obtain ⟨value, writes, same⟩ := exists_writes_of_alike writes onLiteral
    refine ⟨_, .literal writes, ?_⟩
    simp only [Expr.withoutTexts, same]
  | identifier isName =>
    obtain _ | ⟨onName, _ | _⟩ := alike
    refine ⟨_, .identifier (onName.kind_eq isName), ?_⟩
    simp only [Expr.withoutTexts, onName.text_eq isName]
  | parenthesised opens _ closes inside =>
    obtain _ | ⟨onParen, behind⟩ := alike
    obtain ⟨ts, close, rest, rfl, onInside, onClose, atEnd⟩ :=
      exists_of_forall₂_alike_append_cons behind
    cases atEnd
    obtain ⟨f, phrase, same⟩ := inside onInside
    exact ⟨f, .parenthesised (onParen.kind_eq opens) phrase (onClose.kind_eq closes), same⟩
  | array opens _ closes inside =>
    obtain _ | ⟨onBracket, behind⟩ := alike
    obtain ⟨ts, close, rest, rfl, onItems, onClose, atEnd⟩ :=
      exists_of_forall₂_alike_append_cons behind
    cases atEnd
    obtain ⟨f, phrase, same⟩ := inside onItems
    obtain ⟨items, rfl, _⟩ := Expr.exists_of_withoutTexts_eq_array same
    exact ⟨_, .array (onBracket.kind_eq opens) phrase (onClose.kind_eq closes), same⟩
  | item _ ih =>
    obtain ⟨f, phrase, same⟩ := ih alike
    refine ⟨_, .item phrase, ?_⟩
    simp only [Expr.withoutTexts, Expr.listWithoutTexts, same]
  | cons _ parts _ first others =>
    obtain ⟨ts, comma, us, rfl, onFirst, onComma, onOthers⟩ :=
      exists_of_forall₂_alike_append_cons alike
    obtain ⟨e, phrase, sameFirst⟩ := first onFirst
    obtain ⟨f, list, sameList⟩ := others onOthers
    obtain ⟨es, rfl, sameOthers⟩ := Expr.exists_of_withoutTexts_eq_array sameList
    refine ⟨_, .cons phrase (onComma.kind_eq parts) list, ?_⟩
    simp only [Expr.withoutTexts, Expr.listWithoutTexts, sameFirst, sameOthers]
  | empty =>
    cases alike
    exact ⟨_, .empty, rfl⟩
  | list _ ih =>
    obtain ⟨f, phrase, same⟩ := ih alike
    obtain ⟨es, rfl, _⟩ := Expr.exists_of_withoutTexts_eq_array same
    exact ⟨_, .list phrase, same⟩

end Grammar

/-! ### Whole texts -/

section Checks

variable {settings : Settings} {source other : String} {ts us : List Token} {e : Expr}

theorem exists_parseTokens_of_alike (tokenized : tokenize source = .ok ts)
    (alike : List.Forall₂ Token.Alike ts us) (parsed : parseTokens ts = .ok e) :
    ∃ f, parseTokens us = .ok f ∧ f.withoutTexts = e.withoutTexts := by
  have legible := legible_of_tokenize tokenized
  obtain ⟨body, last, rfl, lexemes⟩ := exists_body_of_tokenize tokenized
  obtain ⟨n, within, phrase⟩ := derives_of_parseTokens legible
    (fun t member => kind_ne_eof_of_isLexeme (lexemes t member)) parsed
  obtain ⟨body', ends, rfl, onBody, onEnd⟩ := exists_of_forall₂_alike_append alike
  obtain ⟨f, phrase', same⟩ := phrase.alike onBody
  obtain _ | @⟨_, u, _, _, ⟨kind, text⟩, _ | _⟩ := onEnd
  have isEnd : u = Token.eof u.position := by
    obtain ⟨k, w, q⟩ := u
    obtain rfl : TokenKind.eof = k := kind
    obtain rfl : "" = w := text TokenKind.noConfusion
    rfl
  rw [isEnd]
  exact ⟨f, (returns_parseTokens phrase' u.position).1 within, same⟩

theorem isBlankText_iff_of_tokenize (tokenized : tokenize source = .ok ts) :
    Text.isBlankText source.toList = true ↔ ts.length = 1 := by
  constructor
  · intro blank
    obtain ⟨only, read⟩ : ∃ only, Lexer.tokensFrom source.toList 0 = .ok [Token.eof only] :=
      Lexer.tokensFrom_of_isBlankText blank
    rw [tokenize, read] at tokenized
    cases tokenized
    rfl
  · exact Lexer.isBlankText_of_tokensFrom tokenized

/-- Without template quotes the scan for brackets sees no more of a text than its tokens show. -/
theorem isBalanced_eq_of_alike (tokenized : tokenize source = .ok ts)
    (tokenized' : tokenize other = .ok us) (alike : List.Forall₂ Token.Alike ts us)
    (noTemplate : ∀ t ∈ ts, t.kind ≠ .backtick) : isBalanced source = isBalanced other := by
  have kinds := map_kind_eq_of_alike alike
  have noTemplate' : ∀ u ∈ us, u.kind ≠ .backtick := by
    intro u member isTemplate
    have among : u.kind ∈ ts.map Token.kind := by
      rw [kinds]
      exact List.mem_map_of_mem member
    obtain ⟨t, member', same⟩ := List.mem_map.mp among
    exact noTemplate t member' (same.trans isTemplate)
  have nested : brackets ts = brackets us := by
    have both := congrArg (List.filterMap TokenKind.bracket?) kinds
    rwa [List.filterMap_map, List.filterMap_map] at both
  have first : isBalanced source = true ↔ Bracket.Nests (brackets ts) :=
    Lexer.scans_tokensFrom tokenized noTemplate []
  have second : isBalanced other = true ↔ Bracket.Nests (brackets us) :=
    Lexer.scans_tokensFrom tokenized' noTemplate' []
  rw [Bool.eq_iff_iff, first, second, nested]

theorem expressionText_iff_of_alike (tokenized : tokenize source = .ok ts)
    (tokenized' : tokenize other = .ok us) (alike : List.Forall₂ Token.Alike ts us)
    (within : source.length ≤ settings.maxExpressionLength)
    (within' : other.length ≤ settings.maxExpressionLength)
    (balanced : isBalanced source = isBalanced other) :
    expressionText settings (.text source) = .ok source ↔
      expressionText settings (.text other) = .ok other := by
  have blank : Text.isBlankText source.toList = Text.isBlankText other.toList := by
    rw [Bool.eq_iff_iff, isBlankText_iff_of_tokenize tokenized,
      isBlankText_iff_of_tokenize tokenized', alike.length_eq]
  simp only [expressionText_eq_ok_iff, within, within', blank, balanced]

theorem screenExpr_eq_of_withoutTexts {f : Expr} (same : f.withoutTexts = e.withoutTexts) :
    Screening.screenExpr f = Screening.screenExpr e := by
  rw [← Screening.screenExpr_withoutTexts f, same, Screening.screenExpr_withoutTexts]

theorem exists_checkExpression_of_alike (tokenized : tokenize source = .ok ts)
    (tokenized' : tokenize other = .ok us) (alike : List.Forall₂ Token.Alike ts us)
    (within' : other.length ≤ settings.maxExpressionLength)
    (checked : checkExpression settings (.text source) = .ok e) :
    ∃ f, checkExpression settings (.text other) = .ok f ∧ f.withoutTexts = e.withoutTexts := by
  obtain ⟨text, _, shape, again, screened, parsed, passed⟩ := checkExpression_eq_ok_iff.mp checked
  cases (expressionText_eq_ok_iff.mp shape).1
  rw [tokenized] at again
  cases again
  obtain ⟨f, parsed', same⟩ := exists_parseTokens_of_alike tokenized alike parsed
  have shape' : expressionText settings (.text other) = .ok other :=
    expressionText_eq_ok_iff.mpr ⟨rfl, within',
      isBlankText_eq_false_of_parseTokens tokenized' parsed',
      isBalanced_of_parseTokens tokenized' parsed'⟩
  have screened' : Screening.screenTokens none us = none := by
    rw [← Option.map_eq_none_iff, ← Screening.screenTokens_eq_of_alike alike, screened]
    rfl
  have passed' : Screening.screenExpr f = none := by
    rw [screenExpr_eq_of_withoutTexts same]
    exact passed
  exact ⟨f, checkExpression_eq_ok_iff.mpr
    ⟨other, us, shape', tokenized', screened', parsed', passed'⟩, same⟩

/-- An expression of good shape is forbidden for its tokens, or else for its tree. -/
theorem exists_forbidden_iff {what : Forbidden} (tokenized : tokenize source = .ok ts) :
    (∃ p, checkExpression settings (.text source) = .error (.error (.forbidden what p))) ↔
      expressionText settings (.text source) = .ok source ∧
        ((Screening.screenTokens none ts).map Prod.fst = some what ∨
          (Screening.screenTokens none ts).map Prod.fst = none ∧
            ∃ e, parseTokens ts = .ok e ∧ Screening.screenExpr e = some what) := by
  cases shape : expressionText settings (.text source) with
  | error error =>
    have other : ∀ p, error ≠ .forbidden what p := by
      rintro p rfl
      simp only [expressionText] at shape
      split at shape
      · cases shape
      · split at shape
        · cases shape
        · split at shape <;> cases shape
    simp [checkExpression, shape, bind, Except.bind, Except.mapError, other]
  | ok text =>
    cases (expressionText_eq_ok_iff.mp shape).1
    cases screened : Screening.screenTokens none ts with
    | some found =>
      obtain ⟨f, q⟩ := found
      simp [checkExpression, shape, screenedTokens, tokenized, screened, bind, Except.bind,
        Except.mapError]
    | none =>
      have onward : checkExpression settings (.text source) = screenedExpr ts := by
        simp [checkExpression, shape, screenedTokens, tokenized, screened, bind, Except.bind,
          Except.mapError]
      rw [onward, screenedExpr]
      cases parsed : parseTokens ts with
      | error failure => cases failure <;> simp
      | ok e => cases found : Screening.screenExpr e <;> simp [found]

end Checks

/-- **What the text literals of an expression say has no part in the checks.**  Of two texts within
    the length limit whose tokens are alike, one is accepted exactly if the other is, and the trees
    are equal but for the text literals.  The same is forbidden about both, provided that the scan
    for brackets finds both balanced or neither.  Only behind a template quote, which is never
    accepted, can it find a difference. -/
theorem checkExpression_of_alike {settings : Settings} {source other : String} {ts us : List Token}
    (tokenized : tokenize source = .ok ts) (tokenized' : tokenize other = .ok us)
    (within : source.length ≤ settings.maxExpressionLength)
    (within' : other.length ≤ settings.maxExpressionLength)
    (alike : List.Forall₂ Token.Alike ts us) :
    ((∃ e, checkExpression settings (.text source) = .ok e) ↔
        ∃ f, checkExpression settings (.text other) = .ok f) ∧
      (∀ e f, checkExpression settings (.text source) = .ok e →
        checkExpression settings (.text other) = .ok f → e.withoutTexts = f.withoutTexts) ∧
      (isBalanced source = isBalanced other → ∀ what,
        (∃ p, checkExpression settings (.text source) = .error (.error (.forbidden what p))) ↔
          ∃ p, checkExpression settings (.text other) = .error (.error (.forbidden what p))) ∧
      ((∀ t ∈ ts, t.kind ≠ .backtick) → isBalanced source = isBalanced other) := by
  have alike' := forall₂_alike_symm alike
  refine ⟨⟨?_, ?_⟩, ?_, ?_, isBalanced_eq_of_alike tokenized tokenized' alike⟩
  · rintro ⟨e, checked⟩
    obtain ⟨f, checked', _⟩ :=
      exists_checkExpression_of_alike tokenized tokenized' alike within' checked
    exact ⟨f, checked'⟩
  · rintro ⟨f, checked⟩
    obtain ⟨e, checked', _⟩ :=
      exists_checkExpression_of_alike tokenized' tokenized alike' within checked
    exact ⟨e, checked'⟩
  · intro e f checked checked'
    obtain ⟨f', again, same⟩ :=
      exists_checkExpression_of_alike tokenized tokenized' alike within' checked
    rw [checked'] at again
    cases again
    exact same.symm
  · intro balanced what
    have trees : (∃ e, parseTokens ts = .ok e ∧ Screening.screenExpr e = some what) ↔
        ∃ f, parseTokens us = .ok f ∧ Screening.screenExpr f = some what := by
      constructor
      · rintro ⟨e, parsed, found⟩
        obtain ⟨f, parsed', same⟩ := exists_parseTokens_of_alike tokenized alike parsed
        exact ⟨f, parsed', (screenExpr_eq_of_withoutTexts same).trans found⟩
      · rintro ⟨f, parsed, found⟩
        obtain ⟨e, parsed', same⟩ := exists_parseTokens_of_alike tokenized' alike' parsed
        exact ⟨e, parsed', (screenExpr_eq_of_withoutTexts same).trans found⟩
    rw [exists_forbidden_iff tokenized, exists_forbidden_iff tokenized', trees,
      expressionText_iff_of_alike tokenized tokenized' alike within within' balanced,
      Screening.screenTokens_eq_of_alike alike]

/-- A word that is denied as a name passes as a text, as brackets and quotes do. -/
theorem checkExpression_of_alike_constructor :
    ∃ ts us, tokenize "['constructor', x]" = .ok ts ∧ tokenize "[\"]\\\"\x60\", x]" = .ok us ∧
      "['constructor', x]".length ≤ ({} : Settings).maxExpressionLength ∧
      "[\"]\\\"\x60\", x]".length ≤ ({} : Settings).maxExpressionLength ∧
      List.Forall₂ Token.Alike ts us ∧ (∀ t ∈ ts, t.kind ≠ .backtick) ∧
      isBalanced "['constructor', x]" = isBalanced "[\"]\\\"\x60\", x]" ∧
      ∃ f, checkExpression {} (.text "[\"]\\\"\x60\", x]") = .ok f ∧
        f.withoutTexts = .array [.literal (.text ""), .identifier "x"] := by
  have tokenized : tokenize "['constructor', x]" = .ok [⟨.lbracket, "[", 0⟩,
      ⟨.string, "constructor", 1⟩, ⟨.comma, ",", 14⟩, ⟨.ident, "x", 16⟩, ⟨.rbracket, "]", 17⟩,
      Token.eof 18] :=
    Except.eq_ok_of_toOption_eq_some (by decide +kernel)
  have tokenized' : tokenize "[\"]\\\"\x60\", x]" = .ok [⟨.lbracket, "[", 0⟩,
      ⟨.string, "]\"\x60", 1⟩, ⟨.comma, ",", 7⟩, ⟨.ident, "x", 9⟩, ⟨.rbracket, "]", 10⟩,
      Token.eof 11] :=
    Except.eq_ok_of_toOption_eq_some (by decide +kernel)
  have within : "['constructor', x]".length ≤ ({} : Settings).maxExpressionLength := by decide
  have within' : "[\"]\\\"\x60\", x]".length ≤ ({} : Settings).maxExpressionLength := by decide
  have alike : List.Forall₂ Token.Alike
      [⟨.lbracket, "[", 0⟩, ⟨.string, "constructor", 1⟩, ⟨.comma, ",", 14⟩, ⟨.ident, "x", 16⟩,
        ⟨.rbracket, "]", 17⟩, Token.eof 18]
      [⟨.lbracket, "[", 0⟩, ⟨.string, "]\"\x60", 1⟩, ⟨.comma, ",", 7⟩, ⟨.ident, "x", 9⟩,
        ⟨.rbracket, "]", 10⟩, Token.eof 11] := by
    simp [Token.Alike, Token.eof]
  have noTemplate : ∀ t ∈ [⟨.lbracket, "[", 0⟩, ⟨.string, "constructor", 1⟩, ⟨.comma, ",", 14⟩,
      ⟨.ident, "x", 16⟩, ⟨.rbracket, "]", 17⟩, Token.eof 18], t.kind ≠ .backtick := by decide
  have shape : expressionText {} (.text "['constructor', x]") = .ok "['constructor', x]" :=
    expressionText_eq_ok_iff.mpr ⟨rfl, within, by decide, by decide⟩
  have checked : checkExpression {} (.text "['constructor', x]") =
      .ok (.array [.literal (.text "constructor"), .identifier "x"]) :=
    checkExpression_eq_ok_iff.mpr
      ⟨_, _, shape, tokenized, by decide +kernel, rfl, by decide +kernel⟩
  obtain ⟨accepted, trees, _, scans⟩ :=
    checkExpression_of_alike tokenized tokenized' within within' alike
  obtain ⟨f, checked'⟩ := accepted.mp ⟨_, checked⟩
  exact ⟨_, _, tokenized, tokenized', within, within', alike, noTemplate, scans noTemplate, f,
    checked', (trees _ f checked checked').symm⟩

end FormEngine
