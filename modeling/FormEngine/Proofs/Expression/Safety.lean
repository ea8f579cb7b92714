/-
  FormEngine/Proofs/Expression/Safety.lean
  ========================================
  **What an expression that passes the checks can reach.**

  The deny list is checked on tokens, the allow list on the tree.  The first becomes
  a statement about the tree because every name of the tree is the text of a name
  token (`StemsFrom.exists_name`), the second because the walk visits every node.
  Since evaluation looks functions up where the screening did, it never meets one
  that is missing, whatever the variables are.
-/
import FormEngine.Expression.Sandbox
import FormEngine.Proofs.Expression.Faults
import FormEngine.Proofs.Expression.Origins

namespace FormEngine

/-- The names that a node itself holds: of a variable, a property, a namespace or a function. -/
def Expr.ownNames : Expr → List String
  | .identifier name => [name]
  | .member _ property => [property]
  | .call space name _ => [space, name]
  | _ => []

/-- The name occurs somewhere in the expression. -/
def Expr.Mentions (e : Expr) (name : String) : Prop := ∃ f, Expr.Occurs f e ∧ name ∈ f.ownNames

/-! ### Names of the tree and of the tokens -/

namespace Grammar

variable {ts : List Token} {e : Expr} {name : String}

/-- The names of an expression are names of the tokens that it stems from. -/
theorem StemsFrom.exists_name (h : StemsFrom ts e) (mentioned : e.Mentions name) :
    ∃ t ∈ ts, t.kind = .ident ∧ t.text = name := by
  obtain ⟨f, occurs, member⟩ := mentioned
  have node := h f occurs
  cases f with
  | identifier own | member target own =>
    rw [List.mem_singleton.mp member]
    exact node
  | call space own arguments =>
    simp only [Expr.ownNames, List.mem_cons, List.not_mem_nil, or_false] at member
    rcases member with rfl | rfl
    · exact node.1
    · exact node.2
  | _ => cases member

end Grammar

/-! ### Screening -/

namespace Screening

/-- Tokens that pass the screening hold no denied name. -/
theorem isDenied_eq_false_of_screenTokens {before : Option TokenKind} {ts : List Token}
    (h : screenTokens before ts = none) :
    ∀ t ∈ ts, t.kind = .ident → isDenied t.text = false := by
  induction ts generalizing before with
  | nil => exact List.forall_mem_nil _
  | cons t ts ih =>
    rw [screenTokens] at h
    split at h
    · cases h
    · next passed =>
      intro u member isName
      rcases List.mem_cons.mp member with rfl | member
      · rw [Bool.eq_false_iff]
        intro denied
        rw [forbiddenToken?, if_pos ⟨isName, denied⟩] at passed
        cases passed
      · exact ih h u member isName

theorem not_mem_of_isDenied_eq_false {name : String} (h : isDenied name = false) :
    name ∉ hostNames ++ reflectionNames ++ keywordNames ∧ ¬"__".toList <+: name.toList := by
  simp only [isDenied, Bool.or_eq_false_iff, List.contains_eq_mem, decide_eq_false_iff_not] at h
  obtain ⟨⟨⟨host, reflection⟩, keyword⟩, underscores⟩ := h
  refine ⟨by simp [host, reflection, keyword], ?_⟩
  intro begins
  rw [List.isPrefixOf_iff_prefix.mpr begins] at underscores
  cases underscores

theorem forbiddenNode?_eq_none {e f : Expr} (h : screenExpr e = none) (occurs : Expr.Occurs f e) :
    forbiddenNode? f = none :=
  List.findSome?_eq_none_iff.mp h f (Expr.mem_walk_iff.mpr occurs)

theorem exists_function_of_passed {space name : String} {arguments : List Expr}
    (passed : forbiddenNode? (.call space name arguments) = none) :
    ∃ f, Library.function? space name = some f := by
  rw [forbiddenNode?] at passed
  split at passed
  · cases passed
  · split at passed
    · cases passed
    · next found => exact Option.ne_none_iff_exists'.mp (by simpa using found)

theorem exists_constant_of_passed {space name : String} (isSpace : Library.isSpace space = true)
    (passed : forbiddenNode? (.member (.identifier space) name) = none) :
    ∃ x, Library.constant? space name = some x := by
  rw [forbiddenNode?, isSpace] at passed
  cases found : Library.constant? space name with
  | some x => exact ⟨x, rfl⟩
  | none => simp [found] at passed

end Screening

/-! ### Evaluation -/

namespace Evaluation

variable {α : Type} {bindings : Bindings} {occasion : Occasion} {e : Expr}

/-- The computation does not fail for want of a function. -/
def FindsFunctions (result : Except EvaluationFault α) : Prop :=
  ∀ space name, result ≠ .error (.noFunction space name)

/-- If every call in the expression names a function, none is missing in the evaluation. -/
theorem findsFunctions_valueAt
    (registered : ∀ space name arguments, Expr.Occurs (.call space name arguments) e →
      ∃ f, Library.function? space name = some f) (here : List Nat) :
    FindsFunctions (valueAt bindings occasion here e) := by
  intro space name failed
  obtain ⟨⟨arguments, occurs⟩, missing⟩ := failsBy_valueAt here _ failed
  obtain ⟨f, found⟩ := registered space name arguments occurs
  rw [found] at missing
  cases missing

end Evaluation

/-- Only the fault of a missing function says that something is not a function. -/
theorem not_suffix_message {fault : EvaluationFault}
    (other : ∀ space name, fault ≠ .noFunction space name) :
    ¬" is not a function".toList <:+ fault.message.toList := by
  refine fault.not_suffix_of_ending (List.suffix_refl _) ?_
  cases fault with
  | noFunction space name => exact absurd rfl (other space name)
  | numeral error =>
    cases error <;>
      dsimp only [EvaluationFault.ending] <;> decide
  | _ =>
    dsimp only [EvaluationFault.ending]
    decide

/-! ### Checked expressions -/

section Checked

variable {settings : Settings} {expression : Value} {e : Expr}

theorem screenedTokens_eq_ok_iff {source : String} {ts : List Token} :
    screenedTokens source = .ok ts ↔
      tokenize source = .ok ts ∧ Screening.screenTokens none ts = none := by
  unfold screenedTokens
  constructor
  · intro h
    split at h
    · cases h
    · next found =>
      split at h
      · cases h
      · next passed =>
        cases h
        exact ⟨found, passed⟩
  · rintro ⟨found, passed⟩
    rw [found]
    dsimp only
    rw [passed]

theorem screenedExpr_eq_ok_iff {ts : List Token} :
    screenedExpr ts = .ok e ↔ parseTokens ts = .ok e ∧ Screening.screenExpr e = none := by
  unfold screenedExpr
  constructor
  · intro h
    split at h
    · cases h
    · cases h
    · next found =>
      split at h
      · cases h
      · next passed =>
        cases h
        exact ⟨found, passed⟩
  · rintro ⟨found, passed⟩
    rw [found]
    dsimp only
    rw [passed]

/-- An expression is accepted exactly if it passes the stages one after the other. -/
theorem checkExpression_eq_ok_iff :
    checkExpression settings expression = .ok e ↔
      ∃ source ts, expressionText settings expression = .ok source ∧ tokenize source = .ok ts ∧
        Screening.screenTokens none ts = none ∧ parseTokens ts = .ok e ∧
        Screening.screenExpr e = none := by
  unfold checkExpression
  simp only [Except.bind_eq_ok_iff, Except.mapError_eq_ok_iff, screenedTokens_eq_ok_iff,
    screenedExpr_eq_ok_iff]
  constructor
  · rintro ⟨source, shape, ts, ⟨tokenized, screened⟩, parsed, passed⟩
    exact ⟨source, ts, shape, tokenized, screened, parsed, passed⟩
  · rintro ⟨source, ts, shape, tokenized, screened, parsed, passed⟩
    exact ⟨source, shape, ts, ⟨tokenized, screened⟩, parsed, passed⟩

/-- The names of a parsed text are names of its tokens. -/
theorem exists_lexeme_of_mentions {source name : String} {ts : List Token}
    (tokenized : tokenize source = .ok ts) (parsed : parseTokens ts = .ok e)
    (mentioned : e.Mentions name) :
    ∃ t ∈ ts, t.kind = .ident ∧ t.text = name ∧ isIdentifier name = true := by
  obtain ⟨body, last, n, rfl, lexemes, phrase⟩ := exists_phrase_of_parseTokens tokenized parsed
  obtain ⟨t, member, isName, text⟩ :=
    (Grammar.stemsFrom_of_derives phrase).exists_name mentioned
  have plain := Lexer.isIdentifier_of_isLexeme (lexemes t member) isName
  rw [text] at plain
  exact ⟨t, List.mem_append_left _ member, isName, text, plain⟩

/-- **An expression that passes the checks reaches nothing that is denied**: its names are plain
    words that are not denied, its calls and constants are those of the library, and no
    evaluation misses a function. -/
theorem checkExpression_safe (h : checkExpression settings expression = .ok e) :
    (∀ name, e.Mentions name → isIdentifier name = true ∧
        name ∉ Screening.hostNames ++ Screening.reflectionNames ++ Screening.keywordNames ∧
        ¬"__".toList <+: name.toList) ∧
      (∀ space name arguments, Expr.Occurs (.call space name arguments) e →
        ∃ f, Library.function? space name = some f) ∧
      (∀ space property, Expr.Occurs (.member (.identifier space) property) e →
        Library.isSpace space = true → ∃ x, Library.constant? space property = some x) ∧
      ∀ bindings occasion fault, evaluate e bindings occasion = .error fault →
        ¬" is not a function".toList <:+ fault.message.toList := by
  obtain ⟨source, ts, _, tokenized, screened, parsed, screenedTree⟩ :=
    checkExpression_eq_ok_iff.mp h
  have registered : ∀ space name arguments, Expr.Occurs (.call space name arguments) e →
      ∃ f, Library.function? space name = some f :=
    fun space name arguments occurs => Screening.exists_function_of_passed
      (Screening.forbiddenNode?_eq_none screenedTree occurs)
  refine ⟨?_, registered, ?_, ?_⟩
  · intro name mentioned
    obtain ⟨t, member, isName, text, plain⟩ :=
      exists_lexeme_of_mentions tokenized parsed mentioned
    have allowed := Screening.isDenied_eq_false_of_screenTokens screened t member isName
    rw [text] at allowed
    exact ⟨plain, Screening.not_mem_of_isDenied_eq_false allowed⟩
  · intro space property occurs isSpace
    exact Screening.exists_constant_of_passed isSpace
      (Screening.forbiddenNode?_eq_none screenedTree occurs)
  · intro bindings occasion fault failed
    refine not_suffix_message ?_
    rintro space name rfl
    exact Evaluation.findsFunctions_valueAt registered [] space name failed

end Checked

/-- A call of the library passes, under the settings by default. -/
theorem checkExpression_safe_abs :
    ∃ e, checkExpression {} (.text "Math.abs(-a)") = .ok e ∧ e.Mentions "abs" ∧
      isIdentifier "abs" = true ∧ (∃ f, Library.function? "Math" "abs" = some f) ∧
      ∀ bindings occasion fault, evaluate e bindings occasion = .error fault →
        ¬" is not a function".toList <:+ fault.message.toList := by
  have shape : expressionText {} (.text "Math.abs(-a)") = .ok "Math.abs(-a)" := by
    have visible : Text.isBlankText "Math.abs(-a)".toList = false := by decide
    have balanced : isBalanced "Math.abs(-a)" = true := by decide
    have length : "Math.abs(-a)".length = 12 := by decide
    rw [expressionText, visible, balanced, length]
    rfl
  have tokenized : tokenize "Math.abs(-a)" = .ok [⟨.ident, "Math", 0⟩, ⟨.dot, ".", 4⟩,
      ⟨.ident, "abs", 5⟩, ⟨.lparen, "(", 8⟩, ⟨.minus, "-", 9⟩, ⟨.ident, "a", 10⟩,
      ⟨.rparen, ")", 11⟩, Token.eof 12] :=
    Except.eq_ok_of_toOption_eq_some (by decide +kernel)
  have screened : Screening.screenTokens none [⟨.ident, "Math", 0⟩, ⟨.dot, ".", 4⟩,
      ⟨.ident, "abs", 5⟩, ⟨.lparen, "(", 8⟩, ⟨.minus, "-", 9⟩, ⟨.ident, "a", 10⟩,
      ⟨.rparen, ")", 11⟩, Token.eof 12] = none := by decide
  have parsed : parseTokens [⟨.ident, "Math", 0⟩, ⟨.dot, ".", 4⟩, ⟨.ident, "abs", 5⟩,
      ⟨.lparen, "(", 8⟩, ⟨.minus, "-", 9⟩, ⟨.ident, "a", 10⟩, ⟨.rparen, ")", 11⟩, Token.eof 12] =
      .ok (.call "Math" "abs" [.unary .neg (.identifier "a")]) := rfl
  have passed :
      Screening.screenExpr (.call "Math" "abs" [.unary .neg (.identifier "a")]) = none := by
    decide +kernel
  have checked : checkExpression {} (.text "Math.abs(-a)") =
      .ok (.call "Math" "abs" [.unary .neg (.identifier "a")]) :=
    checkExpression_eq_ok_iff.mpr ⟨_, _, shape, tokenized, screened, parsed, passed⟩
  obtain ⟨names, calls, _, runs⟩ := checkExpression_safe checked
  have mentioned : Expr.Mentions (.call "Math" "abs" [.unary .neg (.identifier "a")]) "abs" :=
    ⟨_, .root _, by decide⟩
  exact ⟨_, checked, mentioned, (names "abs" mentioned).1, calls "Math" "abs" _ (.root _), runs⟩

end FormEngine
