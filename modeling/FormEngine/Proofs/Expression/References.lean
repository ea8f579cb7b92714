/-
  FormEngine/Proofs/Expression/References.lean
  ============================================
  **What an expression refers to**, and that its value depends on nothing else.

  Evaluation looks up the names of the identifiers that occur in the expression,
  and no others (`Evaluation.valueAt_congr`).  Collecting the variables skips an
  identifier only if its name was met before or is that of a namespace
  (`Expr.mem_variableNames_of_occurs`).  A namespace can be shadowed by a variable
  that is not listed, so the bindings of its name count too.
-/
import FormEngine.Expression.Evaluation
import FormEngine.Proofs.Expression.Occurrence
import FormEngine.Proofs.Expression.Relabelling

namespace FormEngine

/-! ### The names that are collected -/

theorem Library.mem_of_isSpace {name : String} (h : isSpace name = true) :
    name ∈ ["Math", "String", "Number"] := by
  obtain ⟨space, member, same⟩ := List.lookup_isSome_iff.mp h
  rw [beq_iff_eq.mp same]
  exact List.mem_map_of_mem member

namespace Expr

variable {e node : Expr} {nodes : List Expr} {seen : List String} {name space : String}

theorem isSpace_of_accessedSpace? (h : accessedSpace? node = some space) :
    Library.isSpace space = true := by
  unfold accessedSpace? at h
  split at h
  · split at h
    · next isSpace =>
      cases h
      exact isSpace
    · cases h
  · cases h

/-- The names of identifiers among the nodes are collected, unless they are seen already or name a
    namespace. -/
theorem mem_collectVariables (member : .identifier name ∈ nodes) (fresh : name ∉ seen)
    (plain : Library.isSpace name = false) : name ∈ collectVariables seen nodes := by
  fun_induction collectVariables seen nodes with
  | case1 => cases member
  | case2 seen node nodes space access ih =>
    -- what an access makes seen is the name of a namespace
    have isSpace : Library.isSpace space = true := isSpace_of_accessedSpace? access
    have other : name ≠ space := by
      rintro rfl
      rw [plain] at isSpace
      cases isSpace
    rcases List.mem_cons.mp member with rfl | member
    · cases access
    · exact ih member (by simp [other, fresh])
  | case3 seen nodes found known _ ih =>
    rcases List.mem_cons.mp member with same | member
    · cases same
      exact absurd (by simpa using known) fresh
    · exact ih member fresh
  | case4 seen nodes found _ _ ih =>
    by_cases same : name = found
    · rw [same]
      exact List.mem_cons_self
    · rcases List.mem_cons.mp member with first | member
      · cases first
        exact absurd rfl same
      · exact List.mem_cons_of_mem found (ih member (by simp [same, fresh]))
  | case5 seen node nodes _ noIdentifier ih =>
    rcases List.mem_cons.mp member with first | member
    · exact (noIdentifier name first.symm).elim
    · exact ih member fresh

/-- Every identifier that does not name a namespace is among the variables. -/
theorem mem_variableNames_of_occurs (occurs : Occurs (.identifier name) e)
    (plain : Library.isSpace name = false) : name ∈ e.variableNames :=
  mem_collectVariables (mem_walk_iff.mpr occurs) List.not_mem_nil plain

end Expr

/-! ### The names that evaluation looks up -/

namespace Evaluation

variable {b c : Bindings} {occasion : Occasion} {e : Expr}

theorem identifier_congr {name : String} (agree : b.get? name = c.get? name) :
    identifier b name = identifier c name := by
  rw [identifier, identifier, agree]

theorem space?_congr (agree : ∀ name, e = .identifier name → b.get? name = c.get? name) :
    space? b e = space? c e := by
  cases e with
  | identifier name => rw [space?, space?, Record.has, Record.has, agree name rfl]
  | _ => rfl

theorem valuesAt_congr (es : List Expr)
    (each : ∀ e ∈ es, ∀ here, valueAt b occasion here e = valueAt c occasion here e)
    (here : List Nat) (i : Nat) : valuesAt b occasion here i es = valuesAt c occasion here i es := by
  induction es generalizing i with
  | nil => rw [valuesAt, valuesAt]
  | cons e es ih =>
    have first := each e List.mem_cons_self (i :: here)
    have rest := ih (fun d member => each d (List.mem_cons_of_mem e member)) (i + 1)
    rw [valuesAt, valuesAt, first, rest]

/-- Evaluation depends only on the bindings of the identifiers that occur. -/
theorem valueAt_congr
    (agree : ∀ name, Expr.Occurs (.identifier name) e → b.get? name = c.get? name)
    (here : List Nat) : valueAt b occasion here e = valueAt c occasion here e := by
  induction e using Expr.induction_children generalizing here with
  | step e ih =>
    have child : ∀ d ∈ e.children, ∀ here,
        valueAt b occasion here d = valueAt c occasion here d := by
      intro d member here
      exact ih d member (fun name occurs => agree name (.inside member occurs)) here
    cases e with
    | literal l => rw [valueAt, valueAt]
    | identifier name =>
      rw [valueAt, valueAt]
      exact identifier_congr (agree name (.root _))
    | member target name =>
      -- whether the target is a namespace depends on the binding of its name
      have space : space? b target = space? c target := by
        refine space?_congr (fun other same => ?_)
        subst same
        exact agree other (.inside List.mem_cons_self (.root _))
      rw [valueAt, valueAt, space, child target List.mem_cons_self]
    | index target place =>
      rw [valueAt, valueAt, child target (by simp [Expr.children]),
        child place (by simp [Expr.children])]
    | call space name arguments =>
      rw [valueAt, valueAt, valuesAt_congr arguments child]
    | array items =>
      rw [valueAt, valueAt, valuesAt_congr items child]
    | binary op left right =>
      rw [valueAt, valueAt, child left (by simp [Expr.children]),
        child right (by simp [Expr.children])]
    | unary op operand =>
      rw [valueAt, valueAt, child operand List.mem_cons_self]
    | conditional condition thenBranch elseBranch =>
      rw [valueAt, valueAt, child condition (by simp [Expr.children]),
        child thenBranch (by simp [Expr.children]), child elseBranch (by simp [Expr.children])]

/-! ### Outcomes on different occasions -/

/-- On another occasion an evaluation makes other lists, and nothing else differs, if the objects
    that the expression refers to hold no list of either occasion. -/
theorem evaluate_exchange {occasion' : Occasion}
    (apart : ∀ name, Expr.Occurs (.identifier name) e → ∀ v, b.get? name = some v →
      v.Lacks occasion ∧ v.Lacks occasion') :
    evaluate e b occasion' = (evaluate e b occasion).map (Value.exchange occasion occasion') := by
  refine Eq.trans (valueAt_congr (fun name occurs => ?_) [])
    (evaluate_relabel (Identity.carries_swap occasion occasion') e)
  rw [Record.get?_mapValues]
  cases bound : b.get? name with
  | none => rfl
  | some v =>
    obtain ⟨lacks, lacks'⟩ := apart name occurs v bound
    exact congrArg some (Value.exchange_eq_self lacks lacks').symm

/-- Two expressions, each under its own bindings, have the same outcome: on any one occasion the
    same value or fault, and on two occasions of which no list is bound, the same but for the lists
    that the evaluations themselves make. -/
structure SameOutcome (e : Expr) (b : Bindings) (e' : Expr) (c : Bindings) : Prop where
  once : ∀ occasion, evaluate e' c occasion = evaluate e b occasion
  anew : ∀ occasion occasion', (∀ name, Expr.Occurs (.identifier name) e → ∀ v,
      b.get? name = some v → v.Lacks occasion ∧ v.Lacks occasion') →
    evaluate e' c occasion' = (evaluate e b occasion).map (Value.exchange occasion occasion')

theorem sameOutcome_of_once {e' : Expr}
    (once : ∀ occasion, evaluate e' c occasion = evaluate e b occasion) : SameOutcome e b e' c where
  once := once
  anew _ _ apart := (once _).trans (evaluate_exchange apart)

end Evaluation

/-- **An expression depends on what it refers to.**  Bindings that agree on its variables and on
    the names of the namespaces give it the same value, or the same fault. -/
theorem evaluate_congr (e : Expr) {b c : Bindings}
    (listed : ∀ name ∈ e.variableNames, b.get? name = c.get? name)
    (spaces : ∀ name ∈ ["Math", "String", "Number"], b.get? name = c.get? name) :
    Evaluation.SameOutcome e b e c := by
  refine Evaluation.sameOutcome_of_once (fun occasion => ?_)
  refine Evaluation.valueAt_congr (fun name occurs => Eq.symm ?_) []
  by_cases isSpace : Library.isSpace name = true
  · exact spaces name (Library.mem_of_isSpace isSpace)
  · rw [Bool.not_eq_true] at isSpace
    exact listed name (Expr.mem_variableNames_of_occurs occurs isSpace)

/-- The area of a circle whose radius is a variable. -/
def Expr.circleArea : Expr :=
  .binary .mul (.member (.identifier "Math") "PI")
    (.binary .pow (.identifier "radius") (.literal (.number 2)))

theorem evaluate_congr_circleArea :
    Expr.circleArea.variableNames = ["radius"] ∧
      ∀ occasion, evaluate .circleArea [("unit", .null), ("radius", .int 3)] occasion =
        evaluate .circleArea [("radius", .int 3), ("note", .text "round")] occasion := by
  have names : Expr.circleArea.variableNames = ["radius"] := by decide +kernel
  refine ⟨names, (evaluate_congr .circleArea ?_ ?_).once⟩
  · rw [names]
    simp [Record.get?_cons]
  · simp [Record.get?_cons]

end FormEngine
