/-
  FormEngine/Proofs/Expression/Rereading.lean
  ===========================================
  **What the text of an expression says.**

  The writer puts no parentheses around a unary node and no blank before a point, so
  the text of some trees is the text of another expression: in `(-a ** b)` and in
  `-a.b` the sign applies last, whatever it stood under, and `1.e5` is a number.
  `Expr.reread` is the tree that the text says.  It moves the signs that the text of
  an operand begins with to the front of the whole access or power, and takes a name
  behind an integer for its exponent where it looks like one.  It changes nothing
  exactly if the tree has no such place (`Expr.reread_eq_iff`).
-/
import FormEngine.Proofs.Expression.Occurrence
import FormEngine.Proofs.Expression.RoundTrip

namespace FormEngine.Expr

/-! ### Signs in front -/

/-- The operators applied to the expression, the last of them first. -/
def withOperators (ops : List UnaryOp) (e : Expr) : Expr := ops.foldr .unary e

/-- The operators that the text of the tree begins with. -/
def leading : Expr → List UnaryOp
  | .unary op operand => op :: operand.leading
  | .member target _ | .index target _ => target.leading
  | _ => []

/-- A name of the letter of an exponent and digits. -/
def exponentOf? (property : String) : Option LiteralExponent :=
  match property.toList with
  | [] => none
  | letter :: digits =>
    if (letter = 'e' ∨ letter = 'E') ∧ digits ≠ [] ∧ digits.all Lexer.isAsciiDigit = true then
      some ⟨letter, [], digits⟩
    else none

/-- The literal of an integer, a point and an exponent. -/
def scaledLiteral (n : Nat) (e : LiteralExponent) : DecimalLiteral :=
  ⟨Nat.toDigits 10 n, some [], some e⟩

/-- What is read when the text of the target is followed by a point and the name. -/
def accessed (target : Expr) (property : String) : Expr :=
  match target, exponentOf? property with
  | .literal (.number (.int n)), some e =>
    .literal (.number (.float ((scaledLiteral n.toNat e).toBinary64 false)))
  | _, _ => .member target property

/-! ### Reading again -/

mutual

/-- What is read behind the leading operators. -/
def core : Expr → Expr
  | .literal value => .literal value
  | .identifier name => .identifier name
  | .member target property => accessed target.core property
  | .index target place => .index target.core (withOperators place.leading place.core)
  | .call space name arguments => .call space name (rereadAll arguments)
  | .array items => .array (rereadAll items)
  | .binary op left right =>
    if op = .pow then
      withOperators left.leading
        (.binary op left.core (withOperators right.leading right.core))
    else
      .binary op (withOperators left.leading left.core) (withOperators right.leading right.core)
  | .unary _ operand => operand.core
  | .conditional condition thenBranch elseBranch =>
    .conditional (withOperators condition.leading condition.core)
      (withOperators thenBranch.leading thenBranch.core)
      (withOperators elseBranch.leading elseBranch.core)

def rereadAll : List Expr → List Expr
  | [] => []
  | e :: rest => withOperators e.leading e.core :: rereadAll rest

end

/-- The tree that the text of the expression says. -/
def reread (e : Expr) : Expr := withOperators e.leading e.core

/-- The text says of the node itself what it is. -/
def NodeFaithful : Expr → Prop
  | .member target property =>
    target.isUnary = false ∧ (target.isInteger = true → exponentOf? property = none)
  | .index target _ => target.isUnary = false
  | .binary op left _ => op = .pow → left.isUnary = false
  | _ => True

/-- The text says of every node what it is. -/
def IsFaithful (e : Expr) : Prop := ∀ f, Occurs f e → f.NodeFaithful

theorem isFaithful_iff {e : Expr} :
    e.IsFaithful ↔ e.NodeFaithful ∧ ∀ c ∈ e.children, c.IsFaithful :=
  forall_occurs_iff

/-! ### Faithful expressions -/

variable {e target left right : Expr} {op : UnaryOp} {ops : List UnaryOp} {property : String}

theorem reread_unary : (unary op e).reread = unary op e.reread := rfl

/-- Operators in front of something else than a unary node are none. -/
theorem withOperators_eq_iff (notUnary : e.isUnary = false) :
    withOperators ops left = e ↔ ops = [] ∧ left = e := by
  cases ops with
  | nil => simp [withOperators]
  | cons op ops =>
    constructor
    · intro same
      subst same
      cases notUnary
    · rintro ⟨same, _⟩
      cases same

theorem leading_of_isUnary (isUnary : e.isUnary = true) : e.leading ≠ [] := by
  cases e with
  | unary op operand => exact List.cons_ne_nil _ _
  | _ => cases isUnary

/-- The text of the target says the target, and no sign of it is left to the whole. -/
theorem core_eq_iff : e.leading = [] ∧ e.core = e ↔ e.reread = e ∧ e.isUnary = false := by
  constructor
  · rintro ⟨noSigns, same⟩
    refine ⟨by rw [reread, noSigns, same]; rfl, ?_⟩
    cases isUnary : e.isUnary with
    | false => rfl
    | true => exact absurd noSigns (leading_of_isUnary isUnary)
  · rintro ⟨same, notUnary⟩
    exact (withOperators_eq_iff notUnary).mp same

theorem accessed_eq_iff {target' : Expr} :
    accessed target property = member target' property ↔
      target = target' ∧ (target.isInteger = true → exponentOf? property = none) := by
  unfold accessed
  split
  · next n e found =>
    refine iff_of_false (fun same => ?_) (fun h => ?_)
    · cases same
    · have none := h.2 rfl
      rw [found] at none
      cases none
  · next other =>
    rw [member.injEq, eq_self, and_true]
    refine ⟨fun same => ⟨same, fun integer => ?_⟩, And.left⟩
    cases found : exponentOf? property with
    | none => rfl
    | some e =>
      exfalso
      unfold isInteger at integer
      split at integer
      · exact other _ e rfl found
      · cases integer

theorem rereadAll_eq_iff {es : List Expr} : rereadAll es = es ↔ ∀ e ∈ es, e.reread = e := by
  induction es with
  | nil => exact iff_of_true rfl (List.forall_mem_nil _)
  | cons e es ih => rw [rereadAll, List.cons.injEq, ih, List.forall_mem_cons, reread]

/-- **The text of an expression says the expression exactly if it is faithful.** -/
theorem reread_eq_iff (e : Expr) : e.reread = e ↔ e.IsFaithful := by
  induction e using induction_children with
  | step e ih =>
    rw [isFaithful_iff]
    cases e with
    | literal value => exact iff_of_true rfl ⟨trivial, List.forall_mem_nil _⟩
    | identifier name => exact iff_of_true rfl ⟨trivial, List.forall_mem_nil _⟩
    | member target property =>
      simp only [children, List.forall_mem_singleton] at ih ⊢
      change withOperators target.leading (accessed target.core property) = _ ↔ _
      rw [withOperators_eq_iff rfl, accessed_eq_iff, ← ih]
      constructor
      · rintro ⟨noSigns, same, plain⟩
        obtain ⟨same', notUnary⟩ := core_eq_iff.mp ⟨noSigns, same⟩
        rw [same] at plain
        exact ⟨⟨notUnary, plain⟩, same'⟩
      · rintro ⟨⟨notUnary, plain⟩, same⟩
        obtain ⟨noSigns, same'⟩ := core_eq_iff.mpr ⟨same, notUnary⟩
        refine ⟨noSigns, same', ?_⟩
        rw [same']
        exact plain
    | index target place =>
      simp only [children, List.forall_mem_cons, List.not_mem_nil, false_imp_iff, implies_true,
        and_true] at ih ⊢
      change withOperators target.leading (index target.core place.reread) = _ ↔ _
      rw [withOperators_eq_iff rfl, index.injEq, ← and_assoc, core_eq_iff, ← ih.1, ← ih.2]
      constructor
      · rintro ⟨⟨same, notUnary⟩, same'⟩
        exact ⟨notUnary, same, same'⟩
      · rintro ⟨notUnary, same, same'⟩
        exact ⟨⟨same, notUnary⟩, same'⟩
    | call space name arguments =>
      change call space name (rereadAll arguments) = _ ↔ _
      rw [call.injEq, eq_self, eq_self, true_and, true_and, rereadAll_eq_iff]
      exact (forall₂_congr ih).trans (and_iff_right trivial).symm
    | array items =>
      change array (rereadAll items) = _ ↔ _
      rw [array.injEq, rereadAll_eq_iff]
      exact (forall₂_congr ih).trans (and_iff_right trivial).symm
    | binary op left right =>
      simp only [children, List.forall_mem_cons, List.not_mem_nil, false_imp_iff, implies_true,
        and_true] at ih ⊢
      by_cases isPow : op = .pow
      · have split : (binary op left right).reread =
            withOperators left.leading (binary op left.core right.reread) := by
          simp only [reread, leading, core, if_pos isPow]
          rfl
        rw [split, withOperators_eq_iff rfl, binary.injEq, ← ih.1, ← ih.2]
        constructor
        · rintro ⟨noSigns, _, same, same'⟩
          obtain ⟨same, notUnary⟩ := core_eq_iff.mp ⟨noSigns, same⟩
          exact ⟨fun _ => notUnary, same, same'⟩
        · rintro ⟨notUnary, same, same'⟩
          obtain ⟨noSigns, same⟩ := core_eq_iff.mpr ⟨same, notUnary isPow⟩
          exact ⟨noSigns, rfl, same, same'⟩
      · have split : (binary op left right).reread = binary op left.reread right.reread := by
          simp only [reread, leading, core, if_neg isPow]
          rfl
        rw [split, binary.injEq, eq_self, true_and, ih.1, ih.2]
        exact (and_iff_right (fun other => absurd other isPow)).symm
    | unary op operand =>
      simp only [children, List.forall_mem_singleton] at ih ⊢
      rw [reread_unary, unary.injEq, eq_self, true_and, ih]
      exact (and_iff_right trivial).symm
    | conditional condition thenBranch elseBranch =>
      simp only [children, List.forall_mem_cons, List.not_mem_nil, false_imp_iff, implies_true,
        and_true] at ih ⊢
      change conditional condition.reread thenBranch.reread elseBranch.reread = _ ↔ _
      rw [conditional.injEq, ih.1, ih.2.1, ih.2.2]
      exact (and_iff_right trivial).symm

end FormEngine.Expr
