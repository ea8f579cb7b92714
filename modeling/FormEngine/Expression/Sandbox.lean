/-
  FormEngine/Expression/Sandbox.lean
  ==================================
  **Safe evaluation of expressions from outside.**

  An expression passes, in this order: its shape (a text that is not blank, not
  too long, with balanced brackets), its tokens and their screening, its grammar
  and the screening of its calls; then it is evaluated, and its value has to be one
  that a form can store.  Each stage has its own errors (`ExpressionError`), so
  that malformed text, a forbidden construct, a failed evaluation and an unusable
  result can be told apart.

  Only a numeral beyond the digit limit interrupts the static stages otherwise
  (`Interruption.numeral`); inside evaluation it is a failed evaluation.
-/
import FormEngine.Expression.Evaluation
import FormEngine.Expression.Parser
import FormEngine.Expression.Screening
import FormEngine.Settings

namespace FormEngine

/-! ### Errors -/

/-- Why an expression is refused or has no usable value. -/
inductive ExpressionError where
  | notText
  | tooLong (limit : Nat)
  | unbalanced
  | lexical (error : LexError)
  | grammatical (error : ParseError)
  | forbidden (what : Forbidden) (position : Option Nat)
  | failed (fault : EvaluationFault)
  | functionResult
  | compoundResult
deriving Repr

/-- The stage of an error. -/
inductive ExpressionErrorKind where
  | invalid
  | forbidden
  | evaluation
  | result
deriving DecidableEq, Repr

namespace ExpressionError

def kind : ExpressionError → ExpressionErrorKind
  | .notText | .tooLong _ | .unbalanced | .lexical _ | .grammatical _ => .invalid
  | .forbidden _ _ => .forbidden
  | .failed _ => .evaluation
  | .functionResult | .compoundResult => .result

def message : ExpressionError → String
  | .notText => "Expression must be a non-empty string"
  | .tooLong limit => "Expression is too long (maximum " ++ limit.repr ++ " characters)"
  | .unbalanced => "Unbalanced parentheses in expression"
  | .lexical error => error.fault.message
  | .grammatical error => error.fault.message
  | .forbidden what _ => what.message
  | .failed fault => "Evaluation failed: " ++ fault.message
  | .functionResult => "Functions not allowed in derived field results"
  | .compoundResult => "Complex objects not allowed in derived field results"

/-- The position in the expression that an error is about. -/
def position? : ExpressionError → Option Nat
  | .lexical error => some error.position
  | .grammatical error => some error.position
  | .forbidden _ position => position
  | _ => none

end ExpressionError

/-- How the treatment of an expression ends early. -/
inductive Interruption where
  | error (error : ExpressionError)
  | numeral (error : NumeralError)
deriving Repr

/-! ### Balance -/

/-- Where a scan for balanced brackets stands: inside a quotation, perhaps after a backslash,
    or outside, with the closing brackets that are due. -/
structure BalanceState where
  quote : Option Char
  escaped : Bool
  due : List Char
deriving DecidableEq, Repr

/-- One character of the scan; nothing if a bracket closes that is not due. -/
def BalanceState.step (s : BalanceState) (c : Char) : Option BalanceState :=
  match s.quote with
  | some quote =>
    if s.escaped then some { s with escaped := false }
    else if c = '\\' then some { s with escaped := true }
    else if c = quote then some { s with quote := none }
    else some s
  | none =>
    if c = '\x27' ∨ c = '\x22' ∨ c = '\x60' then some { s with quote := some c }
    else if c = '(' then some { s with due := ')' :: s.due }
    else if c = '[' then some { s with due := ']' :: s.due }
    else if c = ')' ∨ c = ']' then
      match s.due with
      | d :: due => if d = c then some { s with due := due } else none
      | [] => none
    else some s

def BalanceState.run (s : BalanceState) : List Char → Bool
  | [] => s.due.isEmpty
  | c :: rest =>
    match s.step c with
    | some s => BalanceState.run s rest
    | none => false

/-- Round and square brackets outside quotations nest correctly. -/
def isBalanced (text : String) : Bool := BalanceState.run ⟨none, false, []⟩ text.toList

/-! ### Checking -/

/-- The text of an expression that has an acceptable shape. -/
def expressionText (settings : Settings) (expression : Value) : Except ExpressionError String :=
  match expression with
  | .text s =>
    if Text.isBlankText s.toList then .error .notText
    else if settings.maxExpressionLength < s.length then
      .error (.tooLong settings.maxExpressionLength)
    else if !isBalanced s then .error .unbalanced
    else .ok s
  | _ => .error .notText

/-- The tokens of a text, none of them forbidden. -/
def screenedTokens (s : String) : Except ExpressionError (List Token) :=
  match tokenize s with
  | .error e => .error (.lexical e)
  | .ok ts =>
    match Screening.screenTokens none ts with
    | some (f, position) => .error (.forbidden f (some position))
    | none => .ok ts

/-- The expression of screened tokens, no node of it forbidden. -/
def screenedExpr (ts : List Token) : Except Interruption Expr :=
  match parseTokens ts with
  | .error (.rejected e) => .error (.error (.grammatical e))
  | .error (.numeral e) => .error (.numeral e)
  | .ok e =>
    match Screening.screenExpr e with
    | some f => .error (.error (.forbidden f none))
    | none => .ok e

/-- Runs every static check and returns the tree. -/
def checkExpression (settings : Settings) (expression : Value) : Except Interruption Expr := do
  let s ← (expressionText settings expression).mapError .error
  let ts ← (screenedTokens s).mapError .error
  screenedExpr ts

/-! ### Evaluating -/

/-- The value as a form stores it: a scalar as it is, a flat sequence of scalars as a new list. -/
def storable (v : Value) (occasion : Occasion := {}) : Except ExpressionError Value :=
  if v.isScalar then .ok v
  else
    match v.items? with
    | some items =>
      if items.all Value.isScalar then .ok (.list (.result occasion) items)
      else .error .compoundResult
    | none =>
      match v with
      | .function _ => .error .functionResult
      | _ => .error .compoundResult

/-- The storable value of an expression from outside. -/
def evaluateExpression (settings : Settings) (expression : Value) (bindings : Bindings)
    (occasion : Occasion := {}) : Except Interruption Value := do
  let e ← checkExpression settings expression
  let v ← (evaluate e bindings occasion).mapError (fun fault => .error (.failed fault))
  (storable v occasion).mapError .error

/-! ### Reporting -/

/-- The outcome of a static check against the variables that are known. -/
inductive StaticReport where
  | valid
  | invalid (error : ExpressionError)
  | unknownVariables (names : List String)
deriving Repr

namespace StaticReport

def isValid : StaticReport → Bool
  | .valid => true
  | _ => false

/-- The text of what is wrong. -/
def problem? : StaticReport → Option String
  | .valid => none
  | .invalid error => some error.message
  | .unknownVariables names => some ("Unknown variables: " ++ String.intercalate ", " names)

end StaticReport

/-- Checks an expression without evaluating it.  If the known variables are given, references
    to other names are reported as well. -/
def reportExpression (settings : Settings) (expression : Value)
    (known : Option (List String)) : Except NumeralError StaticReport :=
  match checkExpression settings expression with
  | .error (.numeral e) => .error e
  | .error (.error e) => .ok (.invalid e)
  | .ok e =>
    match known with
    | none => .ok .valid
    | some known =>
      match e.variableNames.filter (fun name => !known.contains name) with
      | [] => .ok .valid
      | unknown => .ok (.unknownVariables unknown)

end FormEngine
