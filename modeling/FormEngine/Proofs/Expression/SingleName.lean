/-
  FormEngine/Proofs/Expression/SingleName.lean
  ============================================
  **A name as an expression.**

  Whether a name can be used is decided on its characters (`isIdentifier`) and on a
  list (`Screening.isDenied`), apart from the lexer, the parser and the screening of
  expressions.  They agree: the expression that consists of the name alone is
  accepted as this variable exactly if the name can be used and is short enough
  (`checkExpression_eq_identifier_iff`).  So whatever name an alias is bound under,
  the expression reads back what it is bound to.
-/
import FormEngine.Proofs.Derived.Bindings
import FormEngine.Proofs.Expression.Balance
import FormEngine.Proofs.Expression.RoundTrip

namespace FormEngine

variable {settings : Settings} {name : String}

/-! ### The checks -/

theorem exists_tokenize_of_isIdentifier (isName : isIdentifier name = true) :
    ∃ last, tokenize name = .ok [⟨.ident, name, 0⟩, Token.eof last] := by
  have ends : Lexer.EndsWord [] := by
    intro c s same
    cases same
  obtain ⟨last, read⟩ := Lexer.reads_identifier (p := 0) isName ends
  refine ⟨last, ?_⟩
  rw [List.append_nil] at read
  rw [tokenize, read, Lexer.tokensFrom]
  rfl

theorem parseTokens_identifier (name : String) (last : Nat) :
    parseTokens [⟨.ident, name, 0⟩, Token.eof last] = .ok (.identifier name) := by
  have alone : Grammar.Derives .power [⟨.ident, name, 0⟩] (.identifier name) 0 :=
    .base (.primary (.identifier rfl))
  exact (returns_parseTokens (Grammar.derives_expr_of_power alone) last).1 (by decide)

theorem screenTokens_identifier (allowed : Screening.isDenied name = false) (last : Nat) :
    Screening.screenTokens none [⟨.ident, name, 0⟩, Token.eof last] = none := by
  simp [Screening.screenTokens, Screening.forbiddenToken?, Screening.statement?, Token.eof, allowed]

theorem screenExpr_identifier (name : String) :
    Screening.screenExpr (.identifier name) = none := by
  rw [Screening.screenExpr, List.findSome?_eq_none_iff]
  intro f member
  cases Expr.mem_walk_iff.mp member with
  | root => rfl
  | inside child _ => cases child

/-- A name alone passes the checks as a variable exactly if it is a plain word that is allowed, and
    not too long. -/
theorem checkExpression_eq_identifier_iff :
    checkExpression settings (.text name) = .ok (.identifier name) ↔
      isIdentifier name = true ∧ Screening.isDenied name = false ∧
        name.length ≤ settings.maxExpressionLength := by
  rw [checkExpression_eq_ok_iff]
  constructor
  · rintro ⟨source, ts, shape, tokenized, screened, parsed, _⟩
    obtain ⟨same, within, _⟩ := expressionText_eq_ok_iff.mp shape
    cases same
    -- blanks and brackets around a name are lost in the tree, but the name of a token has none
    have mentioned : (Expr.identifier name).Mentions name :=
      ⟨_, .root _, List.mem_singleton_self name⟩
    obtain ⟨t, member, isName, text, plain⟩ :=
      exists_lexeme_of_mentions tokenized parsed mentioned
    have allowed := Screening.isDenied_eq_false_of_screenTokens screened t member isName
    rw [text] at allowed
    exact ⟨plain, allowed, within⟩
  · rintro ⟨plain, allowed, within⟩
    obtain ⟨last, tokenized⟩ := exists_tokenize_of_isIdentifier plain
    have parsed := parseTokens_identifier name last
    have shape : expressionText settings (.text name) = .ok name :=
      expressionText_eq_ok_iff.mpr ⟨rfl, within,
        isBlankText_eq_false_of_parseTokens tokenized parsed,
        isBalanced_of_parseTokens tokenized parsed⟩
    exact ⟨name, _, shape, tokenized, screenTokens_identifier allowed last, parsed,
      screenExpr_identifier name⟩

/-! ### Reading a variable -/

theorem evaluateExpression_identifier {bindings : Bindings} {v : Value} {occasion : Occasion}
    (checked : checkExpression settings (.text name) = .ok (.identifier name))
    (bound : bindings.get? name = some v) :
    evaluateExpression settings (.text name) bindings occasion =
      (storable v occasion).mapError Interruption.error := by
  have value : evaluate (.identifier name) bindings occasion = .ok v := by
    rw [evaluate, Evaluation.valueAt, Evaluation.identifier, bound]
  rw [evaluateExpression, checked]
  simp [value, bind, Except.bind, Except.mapError]

theorem checkExpression_of_isBindable (usable : Screening.isBindable name = true)
    (within : name.length ≤ settings.maxExpressionLength) :
    checkExpression settings (.text name) = .ok (.identifier name) := by
  simp only [Screening.isBindable, Bool.and_eq_true, Bool.not_eq_true'] at usable
  exact checkExpression_eq_identifier_iff.mpr ⟨usable.1.1, usable.2, within⟩

/-- **A name alone is an expression exactly if it can be used as a name.**  It is accepted as the
    variable of this name if and only if it is a plain word, it is allowed, and it is not too
    long.  So every alias that is bound, and is not too long, is read back: the entry that binds
    it names a key, and the value of the alias as an expression is what the checks of results
    make of the value of the key, for a parent the value under its id. -/
theorem checkExpression_name :
    (∀ settings name, checkExpression settings (.text name) = .ok (.identifier name) ↔
      isIdentifier name = true ∧ Screening.isDenied name = false ∧
        name.length ≤ settings.maxExpressionLength) ∧
      ∀ (settings : Settings) (d : Derivation) (values : Record Value) (aliases : Record String),
        (∀ p ∈ d.parents, values.has p = true) → ∀ name ∉ d.parents,
          (d.bindings values aliases).has name = true →
          name.length ≤ settings.maxExpressionLength →
            ∃ before key after v, aliases = before ++ (key, name) :: after ∧
              d.BindsAt values before key name v ∧ (key ∈ d.parents → values.get? key = some v) ∧
              ∀ occasion,
                evaluateExpression settings (.text name) (d.bindings values aliases) occasion =
                  (storable v occasion).mapError .error := by
  refine ⟨fun settings name => checkExpression_eq_identifier_iff, ?_⟩
  intro settings d values aliases held name noParent bound within
  obtain ⟨v, value⟩ := Option.isSome_iff_exists.mp bound
  obtain ⟨before, key, after, split, binds⟩ := Derivation.exists_bindsAt noParent value
  refine ⟨before, key, after, v, split, binds, ?_, ?_⟩
  · intro parent
    rw [← Derivation.get?_bindings_of_mem_parents parent (held key parent) before]
    exact binds.bound
  · intro occasion
    exact evaluateExpression_identifier (checkExpression_of_isBindable binds.usable within) value

/-- A dollar sign and digits are parts of names, and an alias reads what its parent has. -/
theorem checkExpression_name_amount :
    checkExpression {} (.text "$net_2") = .ok (.identifier "$net_2") ∧
      ∃ (d : Derivation) (values : Record Value) (aliases : Record String),
        (∀ p ∈ d.parents, values.has p = true) ∧ "amount" ∉ d.parents ∧
          (d.bindings values aliases).has "amount" = true ∧
          "amount".length ≤ ({} : Settings).maxExpressionLength ∧
          evaluateExpression {} (.text "amount") (d.bindings values aliases) = .ok (.int 5) := by
  obtain ⟨accepted, readBack⟩ := checkExpression_name
  have plain : isIdentifier "$net_2" = true := by decide
  refine ⟨(accepted {} "$net_2").mpr ⟨plain, by decide +kernel, by decide⟩, ?_⟩
  have held : ∀ p ∈ ["net 2"], Record.has [("net 2", Value.int 5)] p = true := by decide
  have bound : (Derivation.bindings ⟨["net 2"], "amount"⟩ [("net 2", .int 5)]
      [("net 2", "amount")]).has "amount" = true := by decide +kernel
  have within : "amount".length ≤ ({} : Settings).maxExpressionLength := by decide
  obtain ⟨before, key, after, v, split, _, own, value⟩ :=
    readBack {} ⟨["net 2"], "amount"⟩ _ _ held "amount" (by decide) bound within
  have isParent : key = "net 2" := by
    cases before with
    | nil => exact (congrArg Prod.fst (List.cons.inj split).1).symm
    | cons e before => simp at split
  rw [isParent] at own
  cases own (by decide)
  exact ⟨_, _, _, held, by decide, bound, within, value {}⟩

end FormEngine
