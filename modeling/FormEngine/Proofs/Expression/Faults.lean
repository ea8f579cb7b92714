/-
  FormEngine/Proofs/Expression/Faults.lean
  ========================================
  **What an evaluation fails on.**

  Every fault of an evaluation has its cause in the expression: a name that is not
  bound, a function or constant that the library does not have, an access that
  its target does not permit; only a conversion can fail anywhere.  `Explains` says
  for each fault which cause that is, and `Evaluation.failsBy_valueAt` that
  evaluation never reports a fault without it.
-/
import FormEngine.Expression.Evaluation
import FormEngine.Proofs.Expression.Occurrence
import FormEngine.Proofs.Outcome

namespace FormEngine

namespace Expr

/-- The expression has the cause of the fault, under these variables. -/
def Explains (e : Expr) (bindings : Bindings) : EvaluationFault → Prop
  | .undefinedName name =>
    Occurs (.identifier name) e ∧ bindings.has name = false ∧ Library.isSpace name = false
  | .spaceAsValue name =>
    Occurs (.identifier name) e ∧ bindings.has name = false ∧ Library.isSpace name = true
  | .noFunction space name =>
    (∃ arguments, Occurs (.call space name arguments) e) ∧ Library.function? space name = none
  | .noConstant space property =>
    Occurs (.member (.identifier space) property) e ∧ bindings.has space = false ∧
      Library.constant? space property = none
  | .propertyOfNull property | .noProperty property =>
    ∃ target, Occurs (.member target property) e
  | .elementOfNull => ∃ target place, Occurs (.index target place) e
  | .numeral _ => True

/-- What explains a fault of a part explains it for the whole. -/
theorem Explains.of_child {e c : Expr} {bindings : Bindings} {fault : EvaluationFault}
    (child : c ∈ e.children) (h : c.Explains bindings fault) : e.Explains bindings fault := by
  cases fault with
  | undefinedName name => exact ⟨.inside child h.1, h.2⟩
  | spaceAsValue name => exact ⟨.inside child h.1, h.2⟩
  | noFunction space name =>
    obtain ⟨⟨arguments, within⟩, missing⟩ := h
    exact ⟨⟨arguments, .inside child within⟩, missing⟩
  | noConstant space property => exact ⟨.inside child h.1, h.2⟩
  | propertyOfNull property =>
    obtain ⟨target, within⟩ := h
    exact ⟨target, .inside child within⟩
  | noProperty property =>
    obtain ⟨target, within⟩ := h
    exact ⟨target, .inside child within⟩
  | elementOfNull =>
    obtain ⟨target, place, within⟩ := h
    exact ⟨target, place, .inside child within⟩
  | numeral error => trivial

end Expr

namespace Evaluation

variable {α β : Type} {cause : EvaluationFault → Prop} {bindings : Bindings} {occasion : Occasion}
  {e : Expr}

/-! ### Computations that fail for known causes -/

/-- The computation fails with nothing but faults that have a cause. -/
def FailsBy (cause : EvaluationFault → Prop) (result : Except EvaluationFault α) : Prop :=
  ∀ fault, result = .error fault → cause fault

theorem FailsBy.bind {result : Except EvaluationFault α} {next : α → Except EvaluationFault β}
    (h : FailsBy cause result) (onward : ∀ a, FailsBy cause (next a)) :
    FailsBy cause (result >>= next) := by
  intro fault failed
  rcases Except.bind_eq_error_iff.mp failed with first | ⟨a, _, second⟩
  · exact h fault first
  · exact onward a fault second

theorem failsBy_ok (a : α) : FailsBy cause (.ok a : Except EvaluationFault α) := by
  intro fault failed
  cases failed

theorem failsBy_error {fault : EvaluationFault} (h : cause fault) :
    FailsBy cause (.error fault : Except EvaluationFault α) := by
  intro fault' failed
  cases failed
  exact h

/-- A conversion fails with nothing but the fault of a numeral. -/
theorem failsBy_converting (numerals : ∀ error, cause (.numeral error))
    (result : Except NumeralError α) : FailsBy cause (converting result) := by
  cases result with
  | ok a => exact failsBy_ok a
  | error error => exact failsBy_error (numerals error)

/-! ### Names and accesses -/

theorem failsBy_identifier (name : String) :
    FailsBy ((Expr.identifier name).Explains bindings) (identifier bindings name) := by
  unfold identifier
  split
  · exact failsBy_ok _
  · next unbound =>
    have absent : bindings.has name = false := by rw [Record.has, unbound]; rfl
    by_cases isSpace : Library.isSpace name = true
    · rw [if_pos isSpace]
      exact failsBy_error ⟨.root _, absent, isSpace⟩
    · rw [if_neg isSpace]
      exact failsBy_error ⟨.root _, absent, by simpa using isSpace⟩

theorem failsBy_constant {target : Expr} {space property : String}
    (named : space? bindings target = some space) :
    FailsBy ((Expr.member target property).Explains bindings) (constant space property) := by
  unfold space? at named
  split at named
  · next name =>
    split at named
    · next found =>
      cases named
      rw [Bool.and_eq_true, Bool.not_eq_true'] at found
      unfold constant
      split
      · exact failsBy_ok _
      · next missing => exact failsBy_error ⟨.root _, found.2, missing⟩
    · cases named
  · cases named

theorem failsBy_property (target : Expr) (v : Value) (name : String) :
    FailsBy ((Expr.member target name).Explains bindings) (property v name) := by
  unfold property
  dsimp only
  split
  · split
    · exact failsBy_ok _
    · exact failsBy_error ⟨target, .root _⟩
  · split
    · exact failsBy_error ⟨target, .root _⟩
    · exact failsBy_error ⟨target, .root _⟩

theorem failsBy_element (target place : Expr) (v w : Value) :
    FailsBy ((Expr.index target place).Explains bindings) (element v w) := by
  have numerals : ∀ error, (Expr.index target place).Explains bindings (.numeral error) :=
    fun _ => trivial
  unfold element
  split
  · exact failsBy_error ⟨target, place, .root _⟩
  · exact (failsBy_converting numerals _).bind (fun _ => failsBy_ok _)
  · split
    · exact (failsBy_converting numerals _).bind (fun _ => failsBy_ok _)
    · exact failsBy_ok _

/-! ### Expressions -/

theorem failsBy_valuesAt (es : List Expr)
    (each : ∀ d ∈ es, ∀ here, FailsBy cause (valueAt bindings occasion here d)) (here : List Nat)
    (i : Nat) : FailsBy cause (valuesAt bindings occasion here i es) := by
  induction es generalizing i with
  | nil =>
    rw [valuesAt]
    exact failsBy_ok _
  | cons d es ih =>
    rw [valuesAt]
    refine (each d List.mem_cons_self (i :: here)).bind (fun v => ?_)
    refine (ih (fun c member => each c (List.mem_cons_of_mem d member)) (i + 1)).bind (fun vs => ?_)
    exact failsBy_ok _

/-- **Every fault of an evaluation is explained** by the expression and its variables. -/
theorem failsBy_valueAt (here : List Nat) :
    FailsBy (e.Explains bindings) (valueAt bindings occasion here e) := by
  induction e using Expr.induction_children generalizing here with
  | step e ih =>
    have child : ∀ c ∈ e.children, ∀ here,
        FailsBy (e.Explains bindings) (valueAt bindings occasion here c) :=
      fun c member here fault failed => (ih c member here fault failed).of_child member
    have numerals : ∀ error, e.Explains bindings (.numeral error) := fun _ => trivial
    cases e with
    | literal l =>
      rw [valueAt]
      exact failsBy_ok _
    | identifier name =>
      rw [valueAt]
      exact failsBy_identifier name
    | member target name =>
      rw [valueAt]
      split
      · next space named => exact failsBy_constant named
      · exact (child target List.mem_cons_self _).bind (fun v => failsBy_property target v name)
    | index target place =>
      rw [valueAt]
      refine (child target (by simp [Expr.children]) _).bind (fun v => ?_)
      refine (child place (by simp [Expr.children]) _).bind (fun w => ?_)
      exact failsBy_element target place v w
    | call space name arguments =>
      rw [valueAt]
      split
      · exact (failsBy_valuesAt arguments child here 0).bind
          (fun args => failsBy_converting numerals _)
      · next missing => exact failsBy_error ⟨⟨arguments, .root _⟩, missing⟩
    | array items =>
      rw [valueAt]
      exact (failsBy_valuesAt items child here 0).bind (fun vs => failsBy_ok _)
    | binary op left right =>
      rw [valueAt]
      refine (child left (by simp [Expr.children]) _).bind (fun v => ?_)
      refine (failsBy_converting numerals _).bind (fun decided => ?_)
      split
      · exact failsBy_ok _
      · exact (child right (by simp [Expr.children]) _).bind
          (fun w => failsBy_converting numerals _)
    | unary op operand =>
      rw [valueAt]
      exact (child operand List.mem_cons_self _).bind (fun v => failsBy_converting numerals _)
    | conditional condition thenBranch elseBranch =>
      rw [valueAt]
      refine (child condition (by simp [Expr.children]) _).bind (fun v => ?_)
      refine (failsBy_converting numerals _).bind (fun holds => ?_)
      split
      · exact child thenBranch (by simp [Expr.children]) _
      · exact child elseBranch (by simp [Expr.children]) _

end Evaluation

/-! ### Messages -/

/-- Two texts of which neither ends in the other are not both the end of one. -/
theorem not_suffix_of_suffix {s t u : List Char} (ends : t <:+ s) (apart : ¬u <:+ t)
    (apart' : ¬t <:+ u) : ¬u <:+ s := by
  intro other
  rcases List.suffix_or_suffix_of_suffix ends other with h | h
  · exact apart' h
  · exact apart h

/-- The words at the end of a message, behind the names in it. -/
def EvaluationFault.ending : EvaluationFault → String
  | .undefinedName _ => " is not defined"
  | .spaceAsValue _ => " cannot be used as a value"
  | .noFunction _ _ => " is not a function"
  | .noConstant _ _ => " is not supported"
  | .propertyOfNull _ => "')"
  | .noProperty _ => "' is not supported"
  | .elementOfNull => "Cannot index into null"
  | .numeral (.reading _) => " to increase the limit"
  | .numeral .writing => " to increase the limit"
  | .numeral .beyondFloat => "int too large to convert to float"

theorem EvaluationFault.ending_suffix (fault : EvaluationFault) :
    fault.ending.toList <:+ fault.message.toList := by
  have behind : ∀ s t u : String, t.toList <:+ u.toList → t.toList <:+ (s ++ u).toList := by
    intro s t u ends
    rw [String.toList_append]
    exact ends.trans (List.suffix_append _ _)
  cases fault with
  | undefinedName name => exact behind _ _ _ (List.suffix_refl _)
  | spaceAsValue name => exact behind _ _ _ (List.suffix_refl _)
  | noFunction space name => exact behind _ _ _ (List.suffix_refl _)
  | noConstant space property => exact behind _ _ _ (List.suffix_refl _)
  | propertyOfNull property => exact behind _ _ _ (List.suffix_refl _)
  | noProperty property => exact behind _ _ _ (List.suffix_refl _)
  | elementOfNull => exact List.suffix_refl _
  | numeral error =>
    have limit : " to increase the limit".toList <:+
        " digits; use sys.set_int_max_str_digits() to increase the limit".toList := by decide
    have limit' : " to increase the limit".toList <:+
        "use sys.set_int_max_str_digits() to increase the limit".toList := by decide
    cases error with
    | reading digits => exact behind _ _ _ limit
    | writing => exact behind _ _ _ limit'
    | beyondFloat => exact List.suffix_refl _

/-- What ends in a message does not end in words that differ from the ending of the message.  The
    texts of names are arbitrary, so messages are told apart by their ends. -/
theorem EvaluationFault.not_suffix_of_ending {fault : EvaluationFault} {text : List Char}
    {words : String} (ends : fault.message.toList <:+ text)
    (apart : ¬words.toList <:+ fault.ending.toList ∧ ¬fault.ending.toList <:+ words.toList) :
    ¬words.toList <:+ text :=
  not_suffix_of_suffix (fault.ending_suffix.trans ends) apart.1 apart.2

end FormEngine
