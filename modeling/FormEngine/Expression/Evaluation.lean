/-
  FormEngine/Expression/Evaluation.lean
  =====================================
  **The value of an expression** under given variables.

  Evaluation is a recursion on the expression without effects.  The operators
  convert their operands; `&&`, `||` and `??` return one of them unconverted, and
  evaluate the second only if the first does not decide.  What cannot be read
  (an unknown name, a property of null, …) is a fault; an element outside a list or
  text is null.

  A list literal makes a new list each time.  Its identity is the occasion of the
  evaluation and the place of the literal in the expression, so that neither two
  literals nor two evaluations ever make the same object.
-/
import FormEngine.Expression.Expr
import FormEngine.Expression.Library
import FormEngine.Record
import FormEngine.Value.Comparison

namespace FormEngine

/-- Why an expression has no value. -/
inductive EvaluationFault where
  | undefinedName (name : String)
  | spaceAsValue (name : String)
  | noFunction (space name : String)
  | noConstant (space property : String)
  | propertyOfNull (property : String)
  | noProperty (property : String)
  | elementOfNull
  | numeral (error : NumeralError)
deriving DecidableEq, Repr

def EvaluationFault.message : EvaluationFault → String
  | .undefinedName name => name ++ " is not defined"
  | .spaceAsValue name => name ++ " cannot be used as a value"
  | .noFunction space name => space ++ "." ++ name ++ " is not a function"
  | .noConstant space property => space ++ "." ++ property ++ " is not supported"
  | .propertyOfNull property =>
    "Cannot read properties of null (reading '" ++ property ++ "')"
  | .noProperty property => "Property '" ++ property ++ "' is not supported"
  | .elementOfNull => "Cannot index into null"
  | .numeral error => error.message

/-- The variables of an expression. -/
abbrev Bindings := Record Value

namespace Evaluation

/-- A conversion inside an evaluation. -/
def converting {α : Type} (result : Except NumeralError α) : Except EvaluationFault α :=
  match result with
  | .ok a => .ok a
  | .error e => .error (.numeral e)

/-! ### Names and accesses -/

def identifier (bindings : Bindings) (name : String) : Except EvaluationFault Value :=
  match bindings.get? name with
  | some v => .ok v
  | none => .error (if Library.isSpace name then .spaceAsValue name else .undefinedName name)

/-- The namespace that an expression names, unless a variable has the same name. -/
def space? (bindings : Bindings) : Expr → Option String
  | .identifier name =>
    if Library.isSpace name && !bindings.has name then some name else none
  | _ => none

def constant (space property : String) : Except EvaluationFault Value :=
  match Library.constant? space property with
  | some x => .ok (.float x)
  | none => .error (.noConstant space property)

/-- A property of a value: only the length of a text, list or tuple. -/
def property (v : Value) (name : String) : Except EvaluationFault Value :=
  let length? : Option Nat :=
    match v with
    | .text s => some s.length
    | v => v.items?.map List.length
  match length? with
  | some n => if name = "length" then .ok (.int n) else .error (.noProperty name)
  | none => .error (if v.isNull then .propertyOfNull name else .noProperty name)

/-- The place in a sequence that a number names, if it is a natural number. -/
def place? (x : Number) : Option Nat :=
  match x.extent? with
  | some (.at q) => if q.den = 1 ∧ 0 ≤ q.num then some q.num.toNat else none
  | _ => none

/-- An element of a text, list or tuple; null outside. -/
def element (target place : Value) : Except EvaluationFault Value :=
  match target with
  | .null => .error .elementOfNull
  | .text s => do
    let x ← converting place.toNumber
    return ((place? x).bind (s.toList[·]?)).elim .null (fun c => .text (String.ofList [c]))
  | target =>
    match target.items? with
    | some items => do
      let x ← converting place.toNumber
      return ((place? x).bind (items[·]?)).getD .null
    | none => .ok .null

/-! ### Operators -/

/-- `+`: joins texts if one operand is a text, otherwise adds numbers. -/
def sum (v w : Value) : Except NumeralError Value := do
  let v ← v.toPrimitive
  let w ← w.toPrimitive
  match v, w with
  | .text s, w => return .text (s ++ (← w.toText))
  | v, .text t => return .text ((← v.toText) ++ t)
  | v, w => return .number ((← v.toNumber).add (← w.toNumber))

/-- An operation on two numbers. -/
def arithmetic (f : Number → Number → Number) (v w : Value) : Except NumeralError Value := do
  let x ← v.toNumber
  let y ← w.toNumber
  return .number (f x y)

/-- A relation that holds of the orders `accepted`; of unordered operands it never does. -/
def relation (accepted : List Ordering) (v w : Value) : Except NumeralError Value := do
  match ← v.compare w with
  | some o => return .bool (accepted.contains o)
  | none => return .bool false

/-- The value of an operator that its first operand does not decide. -/
def binaryOp (op : BinaryOp) (v w : Value) : Except NumeralError Value :=
  match op with
  | .add => sum v w
  | .sub => arithmetic Number.sub v w
  | .mul => arithmetic Number.mul v w
  | .div => arithmetic Number.div v w
  | .mod => arithmetic Number.mod v w
  | .pow => arithmetic Number.pow v w
  | .eq => do return .bool (← v.looseEquals w)
  | .ne => do return .bool (!(← v.looseEquals w))
  | .strictEq => .ok (.bool (v.strictEquals w))
  | .strictNe => .ok (.bool (!v.strictEquals w))
  | .lt => relation [.lt] v w
  | .gt => relation [.gt] v w
  | .le => relation [.lt, .eq] v w
  | .ge => relation [.gt, .eq] v w
  | .and | .or | .nullish => .ok w

/-- The first operand decides the value of the operator, so that the second is not evaluated. -/
def decides (op : BinaryOp) (v : Value) : Except NumeralError Bool :=
  match op with
  | .and => do return !(← v.isTruthy)
  | .or => v.isTruthy
  | .nullish => .ok !v.isNull
  | _ => .ok false

def unaryOp (op : UnaryOp) (v : Value) : Except NumeralError Value :=
  match op with
  | .not => do return .bool (!(← v.isTruthy))
  | .neg => do return .number (← v.toNumber).neg
  | .pos => do return .number (← v.toNumber)

def literal : Literal → Value
  | .null => .null
  | .bool b => .bool b
  | .number n => .number n
  | .text s => .text s

/-! ### Expressions -/

variable (bindings : Bindings) (occasion : Occasion)

mutual

/-- The value of an expression at the place `here` of a larger one. -/
def valueAt (here : List Nat) : Expr → Except EvaluationFault Value
  | .literal l => .ok (literal l)
  | .identifier name => identifier bindings name
  | .member target name =>
    match space? bindings target with
    | some space => constant space name
    | none => do
      let v ← valueAt (0 :: here) target
      property v name
  | .index target place => do
    let v ← valueAt (0 :: here) target
    let w ← valueAt (1 :: here) place
    element v w
  | .call space name arguments =>
    match Library.function? space name with
    | some f => do
      let args ← valuesAt here 0 arguments
      converting (Library.apply f args)
    | none => .error (.noFunction space name)
  | .array items => do
    let vs ← valuesAt here 0 items
    return .list (.literal here occasion) vs
  | .binary op left right => do
    let v ← valueAt (0 :: here) left
    if ← converting (decides op v) then return v
    else
      let w ← valueAt (1 :: here) right
      converting (binaryOp op v w)
  | .unary op operand => do
    let v ← valueAt (0 :: here) operand
    converting (unaryOp op v)
  | .conditional condition thenBranch elseBranch => do
    let v ← valueAt (0 :: here) condition
    if ← converting v.isTruthy then valueAt (1 :: here) thenBranch
    else valueAt (2 :: here) elseBranch

/-- The values of the children of the place `here`, from the child number `i` on. -/
def valuesAt (here : List Nat) (i : Nat) : List Expr → Except EvaluationFault (List Value)
  | [] => .ok []
  | e :: rest => do
    let v ← valueAt (i :: here) e
    let vs ← valuesAt here (i + 1) rest
    return v :: vs

end

end Evaluation

/-- The value of an expression under the given variables, evaluated on the given occasion. -/
def evaluate (e : Expr) (bindings : Bindings) (occasion : Occasion := {}) :
    Except EvaluationFault Value :=
  Evaluation.valueAt bindings occasion [] e

end FormEngine
