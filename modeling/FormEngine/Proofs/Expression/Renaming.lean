/-
  FormEngine/Proofs/Expression/Renaming.lean
  ==========================================
  **Names that are bound alike can stand for each other.**

  Renaming the identifiers of an expression leaves its shape as it is, hence also the
  places of its list literals.  So on one occasion the expression has exactly the same
  value, or the same fault, if every name that changes is bound, and to the same object
  as the name it changes to (`Evaluation.valueAt_rename`).  On another occasion it
  makes other lists, and nothing else differs.  That both names are bound matters: an
  unbound namespace in front of a point is no variable.
-/
import FormEngine.Proofs.Derived.Bindings
import FormEngine.Proofs.Expression.References

namespace FormEngine

/-! ### Renamed expressions -/

mutual

/-- The expression with its identifiers renamed. -/
def Expr.rename (σ : String → String) : Expr → Expr
  | .literal value => .literal value
  | .identifier name => .identifier (σ name)
  | .member target property => .member (target.rename σ) property
  | .index target place => .index (target.rename σ) (place.rename σ)
  | .call space name arguments => .call space name (Expr.listRename σ arguments)
  | .array items => .array (Expr.listRename σ items)
  | .binary op left right => .binary op (left.rename σ) (right.rename σ)
  | .unary op operand => .unary op (operand.rename σ)
  | .conditional condition thenBranch elseBranch =>
    .conditional (condition.rename σ) (thenBranch.rename σ) (elseBranch.rename σ)

def Expr.listRename (σ : String → String) : List Expr → List Expr
  | [] => []
  | e :: rest => e.rename σ :: Expr.listRename σ rest

end

/-- The expression with every identifier of the first name replaced by one of the second. -/
def Expr.replaceName (x y : String) (e : Expr) : Expr :=
  e.rename (fun name => if name = x then y else name)

/-! ### Values of renamed expressions -/

namespace Evaluation

variable {b : Bindings} {occasion : Occasion} {σ : String → String}

/-- Every name that changes is bound, and to the same value as the name it changes to. -/
def RespectsNames (b : Bindings) (σ : String → String) : Prop :=
  ∀ name, σ name = name ∨ ∃ v, b.get? name = some v ∧ b.get? (σ name) = some v

theorem respectsNames_replace {x y : String} {v : Value} (first : b.get? x = some v)
    (second : b.get? y = some v) :
    RespectsNames b (fun name => if name = x then y else name) := by
  intro name
  by_cases same : name = x
  · subst same
    exact Or.inr ⟨v, first, by simpa using second⟩
  · exact Or.inl (if_neg same)

section Renamed

variable (respects : RespectsNames b σ)
include respects

theorem identifier_rename (name : String) : identifier b (σ name) = identifier b name := by
  rcases respects name with same | ⟨v, bound, bound'⟩
  · rw [same]
  · rw [identifier, identifier, bound, bound']

/-- Renaming makes no namespace of a variable, nor a variable of a namespace. -/
theorem space?_rename (e : Expr) : space? b (e.rename σ) = space? b e := by
  cases e with
  | identifier name =>
    rw [Expr.rename]
    rcases respects name with same | ⟨v, bound, bound'⟩
    · rw [same]
    · simp [space?, Record.has, bound, bound']
  | _ => rfl

omit respects in
theorem valuesAt_rename (es : List Expr)
    (each : ∀ e ∈ es, ∀ here,
      valueAt b occasion here (e.rename σ) = valueAt b occasion here e) (here : List Nat) (i : Nat) :
    valuesAt b occasion here i (Expr.listRename σ es) = valuesAt b occasion here i es := by
  induction es generalizing i with
  | nil => rw [Expr.listRename]
  | cons e es ih =>
    have first := each e List.mem_cons_self (i :: here)
    have rest := ih (fun d member => each d (List.mem_cons_of_mem e member)) (i + 1)
    rw [Expr.listRename, valuesAt, valuesAt, first, rest]

/-- A renaming that respects the bindings is not seen by evaluation, at any place. -/
theorem valueAt_rename (e : Expr) (here : List Nat) :
    valueAt b occasion here (e.rename σ) = valueAt b occasion here e := by
  induction e using Expr.induction_children generalizing here with
  | step e child =>
    cases e with
    | literal l => rw [Expr.rename]
    | identifier name =>
      rw [Expr.rename, valueAt, valueAt]
      exact identifier_rename respects name
    | member target name =>
      rw [Expr.rename, valueAt, valueAt, space?_rename respects, child target List.mem_cons_self]
    | index target place =>
      rw [Expr.rename, valueAt, valueAt, child target (by simp [Expr.children]),
        child place (by simp [Expr.children])]
    | call space name arguments =>
      rw [Expr.rename, valueAt, valueAt, valuesAt_rename arguments child]
    | array items =>
      rw [Expr.rename, valueAt, valueAt, valuesAt_rename items child]
    | binary op left right =>
      rw [Expr.rename, valueAt, valueAt, child left (by simp [Expr.children]),
        child right (by simp [Expr.children])]
    | unary op operand =>
      rw [Expr.rename, valueAt, valueAt, child operand List.mem_cons_self]
    | conditional condition thenBranch elseBranch =>
      rw [Expr.rename, valueAt, valueAt, child condition (by simp [Expr.children]),
        child thenBranch (by simp [Expr.children]), child elseBranch (by simp [Expr.children])]

end Renamed

theorem sameOutcome_replaceName {x y : String} {v : Value} (first : b.get? x = some v)
    (second : b.get? y = some v) (e : Expr) : SameOutcome e b (e.replaceName x y) b :=
  sameOutcome_of_once (fun _ => valueAt_rename (respectsNames_replace first second) e [])

end Evaluation

/-- **Two names of one object are interchangeable**: replacing one by the other everywhere changes
    neither the value of an expression nor its fault.  So a variable of a derived field may be
    referred to by an alias as well as by what the alias was given for. -/
theorem evaluate_replaceName :
    (∀ (e : Expr) (b : Bindings) (x y : String) (v : Value), b.get? x = some v →
      b.get? y = some v → Evaluation.SameOutcome e b (e.replaceName x y) b) ∧
      ∀ (d : Derivation) (values : Record Value) (before : Record String) (key name : String)
        (after : Record String) (v : Value) (e : Expr), d.BindsAt values before key name v →
          let b := d.bindings values (before ++ (key, name) :: after)
          Evaluation.SameOutcome e b (e.replaceName key name) b ∧
            Evaluation.SameOutcome e b (e.replaceName name key) b := by
  constructor
  · intro e b x y v first second
    exact Evaluation.sameOutcome_replaceName first second e
  · intro d values before key name after v e binds
    constructor
    · exact Evaluation.sameOutcome_replaceName (binds.get?_key after) (binds.get?_alias after) e
    · exact Evaluation.sameOutcome_replaceName (binds.get?_alias after) (binds.get?_key after) e

/-- The length of a list named like a namespace, if it is the list `m`. -/
def Expr.shadowedLength : Expr :=
  .conditional (.binary .strictEq (.identifier "Math") (.identifier "m"))
    (.member (.identifier "Math") "length") (.identifier "n")

theorem evaluate_replaceName_shadowed :
    ∃ (v : Value) (b : Bindings), b.get? "Math" = some v ∧ b.get? "m" = some v ∧
      evaluate (Expr.shadowedLength.replaceName "Math" "m") b = .ok (.int 2) ∧
      ∃ (d : Derivation) (values : Record Value),
        d.BindsAt values [] "net 2" "m" (.int 5) ∧
          evaluate (.binary .sub (.identifier "m") (.identifier "m"))
            (d.bindings values [("net 2", "m")]) = .ok (.int 0) := by
  obtain ⟨sameObject, sameParent⟩ := evaluate_replaceName
  have first : Record.get? [("m", Value.list (.read 0 0) [.null, .null]),
      ("Math", .list (.read 0 0) [.null, .null])] "Math" =
      some (.list (.read 0 0) [.null, .null]) := by rfl
  have second : Record.get? [("m", Value.list (.read 0 0) [.null, .null]),
      ("Math", .list (.read 0 0) [.null, .null])] "m" =
      some (.list (.read 0 0) [.null, .null]) := by rfl
  have binds : Derivation.BindsAt ⟨["net 2"], "m"⟩ [("net 2", .int 5)] [] "net 2" "m" (.int 5) :=
    ⟨rfl, rfl, by decide +kernel⟩
  have length := (sameObject .shadowedLength _ _ _ _ first second).once {}
  have difference := (sameParent _ _ _ _ _ [] _
    (.binary .sub (.identifier "net 2") (.identifier "net 2")) binds).1.once {}
  refine ⟨_, _, first, second, ?_, _, _, binds, ?_⟩
  · exact length.trans rfl
  · exact difference.trans rfl

end FormEngine
