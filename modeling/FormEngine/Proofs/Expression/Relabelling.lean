/-
  FormEngine/Proofs/Expression/Relabelling.lean
  =============================================
  **Evaluation does not look into identities.**

  If the objects that the variables hold are replaced, different ones by different
  ones, and the evaluation takes place on another occasion, then the outcome is the
  same up to the same replacement (`Evaluation.valueAt_relabel`).  The replacement has
  to take the lists that the literals make on the one occasion to those that they make
  on the other; nothing else is asked of it, so it may be an exchange of the two
  occasions.  Then values that hold no list of either stay as they are, and only the
  lists made by the evaluation itself differ.
-/
import FormEngine.Expression.Sandbox
import FormEngine.Proofs.Expression.Occurrence
import FormEngine.Proofs.Value.Relabelling

namespace FormEngine

variable {ρ : Identity → Identity} {v w : Value}

/-! ### The library -/

namespace Library

theorem numberArgument_relabel (args : List Value) (i : Nat) :
    numberArgument (args.map (Value.relabel ρ)) i = numberArgument args i := by
  rw [numberArgument, numberArgument, List.getElem?_map]
  cases args[i]? with
  | none => rfl
  | some v => exact Value.toNumber_relabel v

theorem textArgument_relabel (args : List Value) (i : Nat) :
    textArgument (args.map (Value.relabel ρ)) i = textArgument args i := by
  rw [textArgument, textArgument, List.getElem?_map]
  cases args[i]? with
  | none => rfl
  | some v => exact Value.toText_relabel v

theorem optionalArgument_relabel (args : List Value) (i : Nat) :
    optionalArgument (args.map (Value.relabel ρ)) i =
      (optionalArgument args i).map (Value.relabel ρ) := by
  rw [optionalArgument, optionalArgument, List.getElem?_map]
  rcases args[i]? with _ | v
  · rfl
  · cases v <;> rfl

theorem mapM_relabel {α : Type} {f : Value → Except NumeralError α}
    (same : ∀ v : Value, f (v.relabel ρ) = f v) (args : List Value) :
    (args.map (Value.relabel ρ)).mapM f = args.mapM f := by
  induction args with
  | nil => rfl
  | cons v args ih => rw [List.map_cons, List.mapM_cons, List.mapM_cons, same v, ih]

theorem substring_relabel (args : List Value) :
    substring (args.map (Value.relabel ρ)) = substring args := by
  rw [substring, substring, textArgument_relabel, numberArgument_relabel,
    optionalArgument_relabel]
  rcases optionalArgument args 2 with _ | v
  · rfl
  · simp only [Option.map_some, Value.toNumber_relabel]

theorem requestedBase_relabel (args : List Value) :
    requestedBase (args.map (Value.relabel ρ)) = requestedBase args := by
  rw [requestedBase, requestedBase, optionalArgument_relabel]
  rcases optionalArgument args 1 with _ | v
  · rfl
  · simp only [Option.map_some, Value.toNumber_relabel]

theorem parseInt_relabel (args : List Value) :
    parseInt (args.map (Value.relabel ρ)) = parseInt args := by
  rw [parseInt, parseInt, textArgument_relabel, requestedBase_relabel]

/-- The functions of the library look at numbers and texts only, and return nothing else. -/
theorem apply_relabel (f : Builtin) (args : List Value) :
    apply f (args.map (Value.relabel ρ)) = (apply f args).map (Value.relabel ρ) := by
  cases f with
  | abs | ceil | floor | round | sqrt | isNaN | pow =>
    simp only [apply, numberArgument_relabel, Except.bind_map]
    rfl
  | max | min =>
    simp only [apply, numbers, mapM_relabel Value.toNumber_relabel, Except.bind_map]
    rfl
  | concat =>
    simp only [apply, mapM_relabel Value.toText_relabel, Except.bind_map]
    rfl
  | toLowerCase | toUpperCase | trim | parseFloat =>
    simp only [apply, textArgument_relabel, Except.bind_map]
    rfl
  | substring =>
    simp only [apply, substring_relabel, Except.bind_map]
    rfl
  | parseInt =>
    simp only [apply, parseInt_relabel, Except.bind_map]
    rfl

end Library

namespace Evaluation

/-! ### Accesses -/

theorem converting_map (result : Except NumeralError Value) :
    converting (result.map (Value.relabel ρ)) = (converting result).map (Value.relabel ρ) := by
  cases result <;> rfl

theorem identifier_relabel (b : Bindings) (name : String) :
    identifier (b.mapValues (Value.relabel ρ)) name =
      (identifier b name).map (Value.relabel ρ) := by
  rw [identifier, identifier, Record.get?_mapValues]
  cases b.get? name <;> rfl

theorem space?_relabel (b : Bindings) (e : Expr) :
    space? (b.mapValues (Value.relabel ρ)) e = space? b e := by
  cases e with
  | identifier name => rw [space?, space?, Record.has_mapValues]
  | _ => rfl

theorem property_relabel (v : Value) (name : String) :
    property (v.relabel ρ) name = (property v name).map (Value.relabel ρ) := by
  cases v with
  | list i items | tuple i items =>
    simp only [Value.relabel, property, Value.items?, Option.map_some, Value.relabelItems_eq_map,
      List.length_map]
    split <;> rfl
  | text s =>
    simp only [Value.relabel, property]
    split <;> rfl
  | _ => rfl

theorem element_relabel (target place : Value) :
    element (target.relabel ρ) (place.relabel ρ) =
      (element target place).map (Value.relabel ρ) := by
  cases target with
  | text s =>
    simp only [Value.relabel, element, Value.toNumber_relabel, Except.bind_map]
    refine bind_congr (fun x => ?_)
    cases (place? x).bind (s.toList[·]?) <;> rfl
  | list i items | tuple i items =>
    simp only [Value.relabel, element, Value.items?, Value.toNumber_relabel, Except.bind_map,
      Value.relabelItems_eq_map]
    refine bind_congr (fun x => ?_)
    rcases place? x with _ | k
    · rfl
    · simp only [Option.bind_some, List.getElem?_map]
      cases items[k]? <;> rfl
  | _ => rfl

/-! ### Operators -/

theorem sum_relabel (v w : Value) :
    sum (v.relabel ρ) (w.relabel ρ) = (sum v w).map (Value.relabel ρ) := by
  simp only [sum, Value.toPrimitive_relabel, Except.map_bind, Except.bind_map]
  refine bind_congr (fun p => bind_congr (fun q => ?_))
  have firstText : ∀ s, (do return Value.text (s ++ (← (q.relabel ρ).toText)) :
      Except NumeralError Value) =
        (do return Value.text (s ++ (← q.toText)) : Except NumeralError Value).map
          (Value.relabel ρ) := by
    intro s
    simp only [Value.toText_relabel, Except.bind_map]
    rfl
  have secondText : ∀ t, (do return Value.text ((← (p.relabel ρ).toText) ++ t) :
      Except NumeralError Value) =
        (do return Value.text ((← p.toText) ++ t) : Except NumeralError Value).map
          (Value.relabel ρ) := by
    intro t
    simp only [Value.toText_relabel, Except.bind_map]
    rfl
  have numbers : (do return Value.number ((← (p.relabel ρ).toNumber).add
      (← (q.relabel ρ).toNumber)) : Except NumeralError Value) =
        (do return Value.number ((← p.toNumber).add (← q.toNumber)) :
          Except NumeralError Value).map (Value.relabel ρ) := by
    simp only [Value.toNumber_relabel, Except.bind_map]
    rfl
  cases p <;> cases q <;>
    first | exact numbers | exact firstText _ | exact secondText _

theorem arithmetic_relabel (f : Number → Number → Number) (v w : Value) :
    arithmetic f (v.relabel ρ) (w.relabel ρ) = (arithmetic f v w).map (Value.relabel ρ) := by
  simp only [arithmetic, Value.toNumber_relabel, Except.bind_map]
  rfl

theorem relation_relabel (accepted : List Ordering) (v w : Value) :
    relation accepted (v.relabel ρ) (w.relabel ρ) =
      (relation accepted v w).map (Value.relabel ρ) := by
  rw [relation, relation, Value.compare_relabel, Except.bind_map]
  refine bind_congr (fun o => ?_)
  cases o <;> rfl

theorem decides_relabel (op : BinaryOp) (v : Value) : decides op (v.relabel ρ) = decides op v := by
  cases op <;> simp only [decides, Value.isTruthy_relabel, Value.isNull_relabel]

theorem unaryOp_relabel (op : UnaryOp) (v : Value) :
    unaryOp op (v.relabel ρ) = (unaryOp op v).map (Value.relabel ρ) := by
  cases op <;>
    simp only [unaryOp, Value.isTruthy_relabel, Value.toNumber_relabel, Except.bind_map] <;> rfl

theorem binaryOp_relabel (injective : Function.Injective ρ) (op : BinaryOp) (v w : Value) :
    binaryOp op (v.relabel ρ) (w.relabel ρ) = (binaryOp op v w).map (Value.relabel ρ) := by
  cases op with
  | add => exact sum_relabel v w
  | sub => exact arithmetic_relabel Number.sub v w
  | mul => exact arithmetic_relabel Number.mul v w
  | div => exact arithmetic_relabel Number.div v w
  | mod => exact arithmetic_relabel Number.mod v w
  | pow => exact arithmetic_relabel Number.pow v w
  | lt | gt | le | ge => exact relation_relabel _ v w
  | eq | ne =>
    simp only [binaryOp, Value.looseEquals_relabel injective, Except.bind_map]
    rfl
  | strictEq | strictNe =>
    simp only [binaryOp, Value.strictEquals_relabel injective]
    rfl
  | and | or | nullish => rfl

/-! ### Expressions -/

section Anew

variable {b : Bindings} {occasion occasion' : Occasion}
  (carries : Identity.Carries ρ occasion occasion')

theorem valuesAt_relabel (es : List Expr)
    (each : ∀ e ∈ es, ∀ here, valueAt (b.mapValues (Value.relabel ρ)) occasion' here e =
      (valueAt b occasion here e).map (Value.relabel ρ)) (here : List Nat) (i : Nat) :
    valuesAt (b.mapValues (Value.relabel ρ)) occasion' here i es =
      (valuesAt b occasion here i es).map (List.map (Value.relabel ρ)) := by
  induction es generalizing i with
  | nil =>
    rw [valuesAt, valuesAt]
    rfl
  | cons e es ih =>
    have first := each e List.mem_cons_self (i :: here)
    have rest := ih (fun d member => each d (List.mem_cons_of_mem e member)) (i + 1)
    rw [valuesAt, valuesAt, first, rest]
    simp only [Except.map_bind, Except.bind_map]
    rfl

include carries

/-- **Evaluation commutes with replacing objects** by others, at any place of an expression. -/
theorem valueAt_relabel (e : Expr) (here : List Nat) :
    valueAt (b.mapValues (Value.relabel ρ)) occasion' here e =
      (valueAt b occasion here e).map (Value.relabel ρ) := by
  induction e using Expr.induction_children generalizing here with
  | step e child =>
    cases e with
    | literal l =>
      rw [valueAt, valueAt]
      cases l <;> rfl
    | identifier name =>
      rw [valueAt, valueAt]
      exact identifier_relabel b name
    | member target name =>
      rw [valueAt, valueAt, space?_relabel]
      split
      · next space _ =>
        unfold constant
        split <;> rfl
      · rw [child target List.mem_cons_self]
        simp only [Except.map_bind, Except.bind_map, property_relabel]
    | index target place =>
      rw [valueAt, valueAt, child target (by simp [Expr.children]),
        child place (by simp [Expr.children])]
      simp only [Except.map_bind, Except.bind_map, element_relabel]
    | call space name arguments =>
      rw [valueAt, valueAt]
      split
      · rw [valuesAt_relabel arguments child]
        simp only [Except.map_bind, Except.bind_map, Library.apply_relabel, converting_map]
      · rfl
    | array items =>
      rw [valueAt, valueAt, valuesAt_relabel items child]
      simp only [Except.map_bind, Except.bind_map]
      refine bind_congr (fun vs => ?_)
      rw [← carries.literal here, ← Value.relabelItems_eq_map]
      rfl
    | binary op left right =>
      rw [valueAt, valueAt, child left (by simp [Expr.children]),
        child right (by simp [Expr.children])]
      simp only [Except.map_bind, Except.bind_map, decides_relabel]
      refine bind_congr (fun v => bind_congr (fun decided => ?_))
      cases decided with
      | true => rfl
      | false =>
        simp only [Except.bind_map, binaryOp_relabel carries.injective, converting_map,
          Bool.false_eq_true, if_false]
    | unary op operand =>
      rw [valueAt, valueAt, child operand List.mem_cons_self]
      simp only [Except.map_bind, Except.bind_map, unaryOp_relabel, converting_map]
    | conditional condition thenBranch elseBranch =>
      rw [valueAt, valueAt, child condition (by simp [Expr.children]),
        child thenBranch (by simp [Expr.children]), child elseBranch (by simp [Expr.children])]
      simp only [Except.map_bind, Except.bind_map, Value.isTruthy_relabel]
      refine bind_congr (fun v => bind_congr (fun holds => ?_))
      cases holds <;> rfl

end Anew

end Evaluation

/-! ### Expressions from outside -/

section Anew

variable {b : Bindings} {occasion occasion' : Occasion} {settings : Settings}
  (carries : Identity.Carries ρ occasion occasion')
include carries

theorem evaluate_relabel (e : Expr) :
    evaluate e (b.mapValues (Value.relabel ρ)) occasion' =
      (evaluate e b occasion).map (Value.relabel ρ) :=
  Evaluation.valueAt_relabel carries e []

theorem storable_relabel (v : Value) :
    storable (v.relabel ρ) occasion' = (storable v occasion).map (Value.relabel ρ) := by
  unfold storable
  rw [Value.isScalar_relabel, Value.items?_relabel]
  split
  · rfl
  · cases v with
    | list i items | tuple i items =>
      simp only [Value.items?, Option.map_some, List.all_map, Function.comp_def,
        Value.isScalar_relabel]
      split
      · rw [← carries.result, ← Value.relabelItems_eq_map]
        rfl
      · rfl
    | _ => rfl

theorem evaluateExpression_relabel (expression : Value) :
    evaluateExpression settings expression (b.mapValues (Value.relabel ρ)) occasion' =
      (evaluateExpression settings expression b occasion).map (Value.relabel ρ) := by
  simp only [evaluateExpression, evaluate_relabel carries, Except.mapError_map, Except.map_bind,
    Except.bind_map, storable_relabel carries]

end Anew

end FormEngine
