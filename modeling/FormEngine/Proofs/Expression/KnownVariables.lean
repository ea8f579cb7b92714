/-
  FormEngine/Proofs/Expression/KnownVariables.lean
  ================================================
  **An expression that is valid for some variables never misses one.**

  The static check compares the collected variables with the known ones, and the
  collection leaves the names of namespaces out.  Evaluation resolves those by
  another rule: a namespace that is no variable is a fault of its own.  So when all
  known variables are bound, a name that is not defined cannot be met.
-/
import FormEngine.Proofs.Expression.References
import FormEngine.Proofs.Expression.Safety

namespace FormEngine

variable {settings : Settings} {expression : Value} {known : List String} {e : Expr}
  {bindings : Bindings} {fault : EvaluationFault}

/-- A report is valid exactly if the checks pass and all variables are known. -/
theorem reportExpression_eq_valid_iff :
    reportExpression settings expression (some known) = .ok .valid ↔
      ∃ e, checkExpression settings expression = .ok e ∧
        ∀ name ∈ e.variableNames, name ∈ known := by
  unfold reportExpression
  constructor
  · intro h
    split at h
    · cases h
    · cases h
    · next e checked =>
      dsimp only at h
      split at h
      · next none =>
        refine ⟨e, checked, ?_⟩
        intro name member
        by_contra unknown
        have listed : name ∈ e.variableNames.filter (fun name => !known.contains name) :=
          List.mem_filter.mpr ⟨member, by simpa using unknown⟩
        rw [none] at listed
        cases listed
      · cases h
  · rintro ⟨e, checked, listed⟩
    have none : e.variableNames.filter (fun name => !known.contains name) = [] := by
      rw [List.filter_eq_nil_iff]
      intro name member
      simpa using listed name member
    rw [checked]
    dsimp only
    rw [none]

/-- With all of its variables bound, an expression meets no name that is not defined. -/
theorem evaluate_ne_undefinedName (bound : ∀ name ∈ e.variableNames, bindings.has name = true)
    (occasion : Occasion) (name : String) :
    evaluate e bindings occasion ≠ .error (.undefinedName name) := by
  intro failed
  obtain ⟨occurs, absent, plain⟩ := Evaluation.failsBy_valueAt [] _ failed
  have present := bound name (Expr.mem_variableNames_of_occurs occurs plain)
  rw [absent] at present
  cases present

/-- Only the fault of an unbound name says that something is not defined. -/
theorem not_suffix_of_defined {text : List Char} (ends : fault.message.toList <:+ text)
    (defined : ∀ name, fault ≠ .undefinedName name) : ¬" is not defined".toList <:+ text := by
  refine fault.not_suffix_of_ending ends ?_
  cases fault with
  | undefinedName name => exact absurd rfl (defined name)
  | numeral error =>
    cases error <;>
      dsimp only [EvaluationFault.ending] <;> decide
  | _ =>
    dsimp only [EvaluationFault.ending]
    decide

/-- The evaluation of an expression that passes the checks ends with an error of its own. -/
theorem evaluateExpression_eq_error {interruption : Interruption}
    (checked : checkExpression settings expression = .ok e)
    (failed : evaluateExpression settings expression bindings occasion = .error interruption) :
    (∃ fault, interruption = .error (.failed fault) ∧ evaluate e bindings occasion = .error fault) ∨
      interruption = .error .functionResult ∨ interruption = .error .compoundResult := by
  rw [evaluateExpression, checked] at failed
  rcases Except.bind_eq_error_iff.mp failed with static | ⟨e', same, onward⟩
  · cases static
  cases same
  rcases Except.bind_eq_error_iff.mp onward with evaluation | ⟨v, _, refused⟩
  · obtain ⟨fault, found, rfl⟩ := Except.mapError_eq_error_iff.mp evaluation
    exact Or.inl ⟨fault, rfl, found⟩
  · obtain ⟨error, refused, rfl⟩ := Except.mapError_eq_error_iff.mp refused
    right
    unfold storable at refused
    split at refused
    · cases refused
    · split at refused
      · split at refused
        · cases refused
        · cases refused
          exact Or.inr rfl
      · split at refused
        · cases refused
          exact Or.inl rfl
        · cases refused
          exact Or.inr rfl

/-- **A valid expression is defined wherever its variables are.**  If the check finds nothing wrong
    with an expression over some known variables, then under any bindings of at least these no
    evaluation says of a name that it is not defined. -/
theorem reportExpression_valid_defined
    (valid : reportExpression settings expression (some known) = .ok .valid)
    (bound : ∀ name ∈ known, bindings.has name = true) :
    ∃ e, checkExpression settings expression = .ok e ∧
      (∀ occasion fault, evaluate e bindings occasion = .error fault →
        ¬" is not defined".toList <:+ fault.message.toList) ∧
      ∀ occasion interruption,
        evaluateExpression settings expression bindings occasion = .error interruption →
          ∃ error, interruption = .error error ∧
            ¬" is not defined".toList <:+ error.message.toList := by
  obtain ⟨e, checked, listed⟩ := reportExpression_eq_valid_iff.mp valid
  have defined : ∀ occasion fault, evaluate e bindings occasion = .error fault →
      ∀ name, fault ≠ .undefinedName name := by
    rintro occasion fault failed name rfl
    exact evaluate_ne_undefinedName (fun name member => bound name (listed name member)) occasion
      name failed
  refine ⟨e, checked, ?_, ?_⟩
  · intro occasion fault failed
    exact not_suffix_of_defined (List.suffix_refl _) (defined occasion fault failed)
  · intro occasion interruption failed
    rcases evaluateExpression_eq_error checked failed with ⟨fault, rfl, found⟩ | rfl | rfl
    · have behind : fault.message.toList <:+ ("Evaluation failed: " ++ fault.message).toList := by
        rw [String.toList_append]
        exact List.suffix_append _ _
      exact ⟨_, rfl, not_suffix_of_defined behind (defined occasion fault found)⟩
    · exact ⟨_, rfl, by decide⟩
    · exact ⟨_, rfl, by decide⟩

/-- The choice between a constant and a namespace, by a variable. -/
def Expr.chosenConstant : Expr :=
  .conditional (.identifier "a") (.member (.identifier "Math") "PI") (.identifier "Math")

theorem checkExpression_chosenConstant :
    checkExpression {} (.text "a ? Math.PI : Math") = .ok .chosenConstant := by
  refine checkExpression_eq_ok_iff.mpr ⟨"a ? Math.PI : Math", [⟨.ident, "a", 0⟩,
    ⟨.question, "?", 2⟩, ⟨.ident, "Math", 4⟩, ⟨.dot, ".", 8⟩, ⟨.ident, "PI", 9⟩, ⟨.colon, ":", 12⟩,
    ⟨.ident, "Math", 14⟩, Token.eof 18], ?_, ?_, by decide, rfl, by decide +kernel⟩
  · have visible : Text.isBlankText "a ? Math.PI : Math".toList = false := by decide
    have balanced : isBalanced "a ? Math.PI : Math" = true := by decide
    have length : "a ? Math.PI : Math".length = 18 := by decide
    rw [expressionText, visible, balanced, length]
    rfl
  · exact Except.eq_ok_of_toOption_eq_some (by decide +kernel)

/-- Where a variable decides to use a namespace as a value, the check passes and the evaluation
    fails, but not for want of a variable. -/
theorem reportExpression_valid_defined_chosenConstant :
    reportExpression {} (.text "a ? Math.PI : Math") (some ["a"]) = .ok .valid ∧
      evaluate .chosenConstant [("a", .bool false)] = .error (.spaceAsValue "Math") ∧
      ∃ e, checkExpression {} (.text "a ? Math.PI : Math") = .ok e ∧
        ∀ occasion fault, evaluate e [("a", .bool false)] occasion = .error fault →
          ¬" is not defined".toList <:+ fault.message.toList := by
  have names : Expr.chosenConstant.variableNames = ["a"] := by decide +kernel
  have valid : reportExpression {} (.text "a ? Math.PI : Math") (some ["a"]) = .ok .valid :=
    reportExpression_eq_valid_iff.mpr ⟨_, checkExpression_chosenConstant, by rw [names]; simp⟩
  have bound : ∀ name ∈ ["a"], Record.has [("a", Value.bool false)] name = true := by decide
  obtain ⟨e, checked, defined, _⟩ := reportExpression_valid_defined valid bound
  exact ⟨valid, rfl, e, checked, defined⟩

end FormEngine
