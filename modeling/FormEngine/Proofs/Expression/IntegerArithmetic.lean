/-
  FormEngine/Proofs/Expression/IntegerArithmetic.lean
  ===================================================
  **Integer expressions are computed exactly**, as long as they stay in the safe range.

  `IntegerExpr` is the part of the expressions that computes with integers alone:
  numerals and names, signs, `+`, `-`, `*` and `%`, and conditionals that compare two
  such expressions.  It has a value over the unbounded integers (`value`), and the
  integers met on the way to it (`met`, `divisors`), where of a conditional only the
  branch taken counts.  If all integers met are safe and no divisor is zero, then
  evaluation gives this value (`evaluate_toExpr`).  The induction goes through any
  place of a larger expression; its steps are one lemma for the operations, one for the
  signs and one for the comparisons.
-/
import FormEngine.Proofs.Number.SafeIntegers
import FormEngine.Proofs.Value.Order

namespace FormEngine

/-! ### Integer expressions -/

inductive IntegerSign where
  | plus | minus
deriving DecidableEq, Repr

inductive IntegerOperation where
  | add | sub | mul | mod
deriving DecidableEq, Repr

inductive IntegerComparison where
  | lt | gt | le | ge | eq | ne | strictEq | strictNe
deriving DecidableEq, Repr

/-- An expression that computes with integers alone. -/
inductive IntegerExpr where
  | literal (n : Int)
  | identifier (name : String)
  | signed (sign : IntegerSign) (operand : IntegerExpr)
  | operation (op : IntegerOperation) (left right : IntegerExpr)
  /-- `left op right ? thenBranch : elseBranch` -/
  | conditional (op : IntegerComparison) (left right thenBranch elseBranch : IntegerExpr)
deriving DecidableEq, Repr

namespace IntegerSign

def op : IntegerSign → UnaryOp
  | plus => .pos
  | minus => .neg

def apply : IntegerSign → Int → Int
  | plus, a => a
  | minus, a => -a

end IntegerSign

namespace IntegerOperation

def op : IntegerOperation → BinaryOp
  | add => .add
  | sub => .sub
  | mul => .mul
  | mod => .mod

/-- The exact result; the remainder is that of the division that truncates. -/
def apply : IntegerOperation → Int → Int → Int
  | add, a, b => a + b
  | sub, a, b => a - b
  | mul, a, b => a * b
  | mod, a, b => a.tmod b

end IntegerOperation

namespace IntegerComparison

def op : IntegerComparison → BinaryOp
  | lt => .lt
  | gt => .gt
  | le => .le
  | ge => .ge
  | eq => .eq
  | ne => .ne
  | strictEq => .strictEq
  | strictNe => .strictNe

def holds : IntegerComparison → Int → Int → Bool
  | lt, a, b => a < b
  | gt, a, b => b < a
  | le, a, b => a ≤ b
  | ge, a, b => b ≤ a
  | eq, a, b | strictEq, a, b => a = b
  | ne, a, b | strictNe, a, b => a ≠ b

end IntegerComparison

namespace IntegerExpr

/-- The expression as the engine has it. -/
def toExpr : IntegerExpr → Expr
  | literal n => .literal (.number (.int n))
  | identifier name => .identifier name
  | signed sign operand => .unary sign.op operand.toExpr
  | operation op left right => .binary op.op left.toExpr right.toExpr
  | conditional op left right thenBranch elseBranch =>
    .conditional (.binary op.op left.toExpr right.toExpr) thenBranch.toExpr elseBranch.toExpr

/-- The names in the expression. -/
def names : IntegerExpr → List String
  | literal _ => []
  | identifier name => [name]
  | signed _ operand => operand.names
  | operation _ left right => left.names ++ right.names
  | conditional _ left right thenBranch elseBranch =>
    left.names ++ right.names ++ thenBranch.names ++ elseBranch.names

variable (env : String → Int)

/-- The value over the unbounded integers. -/
def value : IntegerExpr → Int
  | literal n => n
  | identifier name => env name
  | signed sign operand => sign.apply operand.value
  | operation op left right => op.apply left.value right.value
  | conditional op left right thenBranch elseBranch =>
    if op.holds left.value right.value then thenBranch.value else elseBranch.value

/-- The values of the leaves and of the intermediate results on the way to the value. -/
def met : IntegerExpr → List Int
  | literal n => [n]
  | identifier name => [env name]
  | signed sign operand => sign.apply (operand.value env) :: operand.met
  | operation op left right =>
    op.apply (left.value env) (right.value env) :: (left.met ++ right.met)
  | conditional op left right thenBranch elseBranch =>
    left.met ++ right.met ++
      if op.holds (left.value env) (right.value env) then thenBranch.met else elseBranch.met

/-- The divisors on the way to the value. -/
def divisors : IntegerExpr → List Int
  | literal _ | identifier _ => []
  | signed _ operand => operand.divisors
  | operation op left right =>
    (if op = .mod then [right.value env] else []) ++ (left.divisors ++ right.divisors)
  | conditional op left right thenBranch elseBranch =>
    left.divisors ++ right.divisors ++
      if op.holds (left.value env) (right.value env) then thenBranch.divisors
      else elseBranch.divisors

/-- The names of the expression are bound to the integers of `env`. -/
def IsBoundBy (bindings : Bindings) (e : IntegerExpr) : Prop :=
  ∀ name ∈ e.names, bindings.get? name = some (.int (env name))

/-- On the way to the value only safe integers are met, and no divisor is zero. -/
def StaysSafe (e : IntegerExpr) : Prop :=
  (∀ n ∈ e.met env, n.natAbs ≤ Number.maxSafeInteger) ∧ ∀ n ∈ e.divisors env, n ≠ 0

/-! ### Parts of an expression -/

variable {env} {bindings : Bindings} {sign : IntegerSign} {op : IntegerOperation}
  {comparison : IntegerComparison} {e l r thenBranch elseBranch : IntegerExpr}

theorem value_mem_met (e : IntegerExpr) : e.value env ∈ e.met env := by
  induction e with
  | literal n => exact List.mem_singleton_self n
  | identifier name => exact List.mem_singleton_self (env name)
  | signed => exact List.mem_cons_self
  | operation => exact List.mem_cons_self
  | conditional op left right thenBranch elseBranch _ _ onThen onElse =>
    rw [value, met]
    apply List.mem_append_right
    split
    · exact onThen
    · exact onElse

theorem StaysSafe.value_le (h : e.StaysSafe env) :
    (e.value env).natAbs ≤ Number.maxSafeInteger :=
  h.1 _ (value_mem_met e)

theorem StaysSafe.operand (h : (signed sign e).StaysSafe env) : e.StaysSafe env :=
  ⟨fun n member => h.1 n (List.mem_cons_of_mem _ member), h.2⟩

theorem StaysSafe.operands (h : (operation op l r).StaysSafe env) :
    l.StaysSafe env ∧ r.StaysSafe env ∧ (op = .mod → r.value env ≠ 0) := by
  simp only [StaysSafe, met, divisors, List.mem_cons, List.mem_append, or_imp, forall_and] at h
  obtain ⟨⟨_, leftMet, rightMet⟩, divisor, leftDivisors, rightDivisors⟩ := h
  refine ⟨⟨leftMet, leftDivisors⟩, ⟨rightMet, rightDivisors⟩, ?_⟩
  intro isMod
  exact divisor _ (by simp [isMod])

/-- Of a conditional, the branch taken stays safe. -/
theorem StaysSafe.branch (h : (conditional comparison l r thenBranch elseBranch).StaysSafe env) :
    l.StaysSafe env ∧ r.StaysSafe env ∧
      if comparison.holds (l.value env) (r.value env) then thenBranch.StaysSafe env
      else elseBranch.StaysSafe env := by
  simp only [StaysSafe, met, divisors, List.mem_append, or_imp, forall_and] at h
  obtain ⟨⟨⟨leftMet, rightMet⟩, branchMet⟩, ⟨leftDivisors, rightDivisors⟩, branchDivisors⟩ := h
  refine ⟨⟨leftMet, leftDivisors⟩, ⟨rightMet, rightDivisors⟩, ?_⟩
  split
  · next holds =>
    rw [if_pos holds] at branchMet branchDivisors
    exact ⟨branchMet, branchDivisors⟩
  · next fails =>
    rw [if_neg fails] at branchMet branchDivisors
    exact ⟨branchMet, branchDivisors⟩

end IntegerExpr

/-! ### Operators on integers -/

section Operators

open Evaluation

variable {a b : Int}

theorem Value.toNumber_int (safe : a.natAbs ≤ Number.maxSafeInteger) :
    (Value.int a).toNumber = .ok (.int a) :=
  congrArg Except.ok (Number.normalise_int_of_le safe)

/-- A sign before a safe integer. -/
theorem IntegerSign.unaryOp_eq (sign : IntegerSign) (safe : a.natAbs ≤ Number.maxSafeInteger) :
    unaryOp sign.op (.int a) = .ok (.int (sign.apply a)) := by
  cases sign with
  | plus =>
    rw [op, unaryOp, Value.toNumber_int safe]
    rfl
  | minus =>
    have negated : (-a).natAbs ≤ Number.maxSafeInteger := by rwa [Int.natAbs_neg]
    rw [op, unaryOp, Value.toNumber_int safe]
    exact congrArg (fun x => Except.ok (Value.number x)) (Number.neg_int negated)

theorem arithmetic_int (f : Number → Number → Number) (left : a.natAbs ≤ Number.maxSafeInteger)
    (right : b.natAbs ≤ Number.maxSafeInteger) :
    arithmetic f (.int a) (.int b) = .ok (.number (f (.int a) (.int b))) := by
  rw [arithmetic, Value.toNumber_int left, Value.toNumber_int right]
  rfl

theorem sum_int (left : a.natAbs ≤ Number.maxSafeInteger)
    (right : b.natAbs ≤ Number.maxSafeInteger) :
    sum (.int a) (.int b) = .ok (.number ((Number.int a).add (.int b))) := by
  change (do return Value.number ((← (Value.int a).toNumber).add (← (Value.int b).toNumber))) = _
  rw [Value.toNumber_int left, Value.toNumber_int right]
  rfl

/-- An operation on safe integers whose exact result is safe has this result. -/
theorem IntegerOperation.binaryOp_eq (op : IntegerOperation)
    (left : a.natAbs ≤ Number.maxSafeInteger) (right : b.natAbs ≤ Number.maxSafeInteger)
    (nonzero : op = .mod → b ≠ 0) (safe : (op.apply a b).natAbs ≤ Number.maxSafeInteger) :
    binaryOp op.op (.int a) (.int b) = .ok (.int (op.apply a b)) := by
  cases op with
  | add =>
    rw [IntegerOperation.op, binaryOp, sum_int left right, Number.add_int safe]
    rfl
  | sub =>
    rw [IntegerOperation.op, binaryOp, arithmetic_int _ left right, Number.sub_int safe]
    rfl
  | mul =>
    rw [IntegerOperation.op, binaryOp, arithmetic_int _ left right, Number.mul_int safe]
    rfl
  | mod =>
    rw [IntegerOperation.op, binaryOp, arithmetic_int _ left right,
      Number.mod_int left right (nonzero rfl)]
    rfl

theorem relation_int (accepted : List Ordering) (left : a.natAbs ≤ Number.maxSafeInteger)
    (right : b.natAbs ≤ Number.maxSafeInteger) :
    relation accepted (.int a) (.int b) = .ok (.bool (accepted.contains (compare a b))) := by
  have order : (Value.int a).compare (.int b) = .ok (some (compare a b)) := by
    change (do return (← (Value.int a).toNumber).compare? (← (Value.int b).toNumber)) = _
    rw [Value.toNumber_int left, Value.toNumber_int right]
    exact congrArg Except.ok (Number.compare?_int a b)
  rw [relation, order]
  rfl

theorem strictEquals_int (a b : Int) :
    (Value.int a).strictEquals (.int b) = decide (a = b) :=
  Number.equals_int a b

theorem looseEquals_int (a b : Int) :
    (Value.int a).looseEquals (.int b) = .ok (decide (a = b)) :=
  congrArg Except.ok (Number.equals_int a b)

/-- Safe integers are compared as integers. -/
theorem IntegerComparison.binaryOp_eq (op : IntegerComparison)
    (left : a.natAbs ≤ Number.maxSafeInteger) (right : b.natAbs ≤ Number.maxSafeInteger) :
    binaryOp op.op (.int a) (.int b) = .ok (.bool (op.holds a b)) := by
  cases op with
  | lt | gt | le | ge =>
    rw [IntegerComparison.op, binaryOp, relation_int _ left right]
    rcases lt_trichotomy a b with less | same | greater
    · simp [holds, compare_lt_iff_lt.mpr less, less, less.le, less.not_gt, less.not_ge]
    · simp [holds, same]
    · simp [holds, compare_gt_iff_gt.mpr greater, greater, greater.le, greater.not_gt,
        greater.not_ge]
  | eq =>
    rw [IntegerComparison.op, binaryOp, looseEquals_int]
    rfl
  | ne =>
    rw [IntegerComparison.op, binaryOp, looseEquals_int, holds, decide_not]
    rfl
  | strictEq => rw [IntegerComparison.op, binaryOp, strictEquals_int, holds]
  | strictNe => rw [IntegerComparison.op, binaryOp, strictEquals_int, holds, decide_not]

end Operators

/-! ### Evaluation -/

namespace IntegerExpr

open Evaluation

variable {env : String → Int} {bindings : Bindings} {occasion : Occasion} {e : IntegerExpr}

theorem valueAt_binary {op : BinaryOp} {left right : Expr} {v w : Value} {here : List Nat}
    (first : valueAt bindings occasion (0 :: here) left = .ok v)
    (second : valueAt bindings occasion (1 :: here) right = .ok w)
    (undecided : decides op v = .ok false) :
    valueAt bindings occasion here (.binary op left right) = converting (binaryOp op v w) := by
  rw [valueAt, first]
  change (do
    if ← converting (decides op v) then return v
    else
      let w ← valueAt bindings occasion (1 :: here) right
      converting (binaryOp op v w)) = _
  rw [undecided, second]
  rfl

theorem valueAt_conditional {condition thenBranch elseBranch : Expr} {b : Bool} {here : List Nat}
    (decided : valueAt bindings occasion (0 :: here) condition = .ok (.bool b)) :
    valueAt bindings occasion here (.conditional condition thenBranch elseBranch) =
      if b then valueAt bindings occasion (1 :: here) thenBranch
      else valueAt bindings occasion (2 :: here) elseBranch := by
  rw [valueAt, decided]
  rfl

/-- A safe expression has its exact value, at any place of a larger one. -/
theorem valueAt_toExpr (bound : e.IsBoundBy env bindings) (safe : e.StaysSafe env)
    (here : List Nat) :
    valueAt bindings occasion here e.toExpr = .ok (.int (e.value env)) := by
  induction e generalizing here with
  | literal n => rfl
  | identifier name =>
    rw [toExpr, valueAt, Evaluation.identifier, bound name (List.mem_singleton_self name)]
    rfl
  | signed sign operand ih =>
    have inner := ih bound safe.operand (0 :: here)
    rw [toExpr, valueAt, inner]
    exact congrArg converting (sign.unaryOp_eq safe.operand.value_le)
  | operation op left right onLeft onRight =>
    obtain ⟨safeLeft, safeRight, nonzero⟩ := safe.operands
    have first := onLeft (fun name member => bound name (List.mem_append_left _ member))
      safeLeft (0 :: here)
    have second := onRight (fun name member => bound name (List.mem_append_right _ member))
      safeRight (1 :: here)
    have undecided : decides op.op (.int (left.value env)) = .ok false := by
      cases op <;> rfl
    rw [toExpr, valueAt_binary first second undecided,
      op.binaryOp_eq safeLeft.value_le safeRight.value_le nonzero safe.value_le]
    rfl
  | conditional op left right thenBranch elseBranch onLeft onRight onThen onElse =>
    obtain ⟨safeLeft, safeRight, safeBranch⟩ := safe.branch
    simp only [IsBoundBy, names, List.mem_append, or_imp, forall_and] at bound
    obtain ⟨⟨⟨boundLeft, boundRight⟩, boundThen⟩, boundElse⟩ := bound
    have first := onLeft boundLeft safeLeft (0 :: 0 :: here)
    have second := onRight boundRight safeRight (1 :: 0 :: here)
    have undecided : decides op.op (.int (left.value env)) = .ok false := by
      cases op <;> rfl
    have decided : valueAt bindings occasion (0 :: here) (.binary op.op left.toExpr right.toExpr) =
        .ok (.bool (op.holds (left.value env) (right.value env))) := by
      rw [valueAt_binary first second undecided,
        op.binaryOp_eq safeLeft.value_le safeRight.value_le]
      rfl
    rw [toExpr, valueAt_conditional decided, value]
    -- both evaluations take the branch that the comparison of the exact values selects
    split
    · next holds =>
      rw [if_pos holds] at safeBranch
      exact onThen boundThen safeBranch (1 :: here)
    · next fails =>
      rw [if_neg fails] at safeBranch
      exact onElse boundElse safeBranch (2 :: here)

/-- **Integer arithmetic is exact in the safe range.**  If only safe integers are met on the way
    to the exact value, and no divisor is zero, then the expression evaluates to this value. -/
theorem evaluate_toExpr (e : IntegerExpr) (env : String → Int) (bindings : Bindings)
    (occasion : Occasion)
    (bound : ∀ name ∈ e.names, bindings.get? name = some (.int (env name)))
    (safe : ∀ n ∈ e.met env, n.natAbs ≤ Number.maxSafeInteger)
    (nonzero : ∀ n ∈ e.divisors env, n ≠ 0) :
    evaluate e.toExpr bindings occasion = .ok (.int (e.value env)) :=
  valueAt_toExpr bound ⟨safe, nonzero⟩ []

/-- `-days % 2 <= 0 ? days * 1000000007 : days % 0`, where the branch not taken has no value. -/
theorem evaluate_toExpr_branches :
    ∃ e : IntegerExpr,
      e = .conditional .le
        (.operation .mod (.signed .minus (.identifier "days")) (.literal 2)) (.literal 0)
        (.operation .mul (.identifier "days") (.literal 1000000007))
        (.operation .mod (.identifier "days") (.literal 0)) ∧
      evaluate e.toExpr [("days", .int 4503599)] = .ok (.int 4503599031525193) := by
  refine ⟨_, rfl, ?_⟩
  exact evaluate_toExpr _ (fun _ => 4503599) _ _ (by simp [names, Record.get?_cons]) (by decide)
    (by decide)

end IntegerExpr

end FormEngine
