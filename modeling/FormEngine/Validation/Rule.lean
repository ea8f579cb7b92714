/-
  FormEngine/Validation/Rule.lean
  ===============================
  **Validation of one value against rules.**

  A rule passes or fails; a rule of an unknown type passes.  A value of any shape
  is checked as the text that it displays as.  Only `notEmpty` fails on null, and
  the email and password rules leave the empty text to it as well.
-/
import FormEngine.Schema.Basic
import FormEngine.Text.Pattern
import FormEngine.Value.Conversion

namespace FormEngine

namespace Validation

/-! ### Email addresses -/

/-- A character of an address between its marks: no blank and no at sign. -/
def isAddressChar (c : Char) : Bool := !Text.isBlank c && c != '@'

/-- A local part, an at sign, and a domain with a dot inside. -/
def addressPattern : List Text.Piece :=
  [.run isAddressChar, .char '@', .run isAddressChar, .char '.', .run isAddressChar]

def isAddress (s : List Char) : Bool := Text.matchesPattern addressPattern s

/-! ### Passwords -/

/-- The least number of characters of a password. -/
def passwordMinLength : Nat := 8

/-- The characters that count as special. -/
def passwordSymbols : List Char := "!@#$%^&*()_+-=[]\x7b\x7d;\x27:\x22\\|,.<>/?".toList

/-- What a password can lack. -/
inductive PasswordIssue where
  | short
  | noUppercase
  | noLowercase
  | noDigit
  | noSymbol
deriving DecidableEq, Repr

namespace PasswordIssue

def all : List PasswordIssue := [.short, .noUppercase, .noLowercase, .noDigit, .noSymbol]

def text : PasswordIssue → String
  | .short => "at least " ++ passwordMinLength.repr ++ " characters"
  | .noUppercase => "one uppercase letter"
  | .noLowercase => "one lowercase letter"
  | .noDigit => "one number"
  | .noSymbol => "one special character"

/-- The password lacks this.  Letters and digits are those of ASCII. -/
def holdsOf (password : List Char) : PasswordIssue → Bool
  | .short => decide (password.length < passwordMinLength)
  | .noUppercase => !password.any (fun c => decide ('A' ≤ c) && decide (c ≤ 'Z'))
  | .noLowercase => !password.any (fun c => decide ('a' ≤ c) && decide (c ≤ 'z'))
  | .noDigit => !password.any (fun c => decide ('0' ≤ c) && decide (c ≤ '9'))
  | .noSymbol => !password.any (fun c => passwordSymbols.contains c)

end PasswordIssue

/-- The text that a value displays as, empty for null. -/
def shownText : Value → Except NumeralError String
  | .null => .ok ""
  | v => v.toText

/-- What a value lacks as a password. -/
def passwordIssues (v : Value) : Except NumeralError (List PasswordIssue) := do
  let password ← shownText v
  return PasswordIssue.all.filter (PasswordIssue.holdsOf password.toList)

/-! ### Lengths -/

/-- The number of characters of a value. -/
def lengthOf (v : Value) : Except NumeralError Int := do return (← v.toText).length

/-- Null or the empty text. -/
def isUnset : Value → Bool
  | .null => true
  | .text s => s.isEmpty
  | _ => false

end Validation

/-! ### Rules -/

namespace Rule

open Validation

/-- The bound of a length rule as an integer, if it is a finite number. -/
def lengthBound? (r : Rule) : Except NumeralError (Option Int) :=
  match r.bound with
  | none => .ok none
  | some b => do return (← b.toValue.toNumber).truncated?

/-- A length rule fails on a value whose length stands in the wrong relation to the bound. -/
def failsLength (wrong : Int → Int → Bool) (r : Rule) (v : Value) : Except NumeralError Bool :=
  if v.isNull then .ok false
  else do
    match ← r.lengthBound? with
    | none => return false
    | some bound => return wrong (← lengthOf v) bound

theorem failsLength_of_bound {wrong : Int → Int → Bool} {r : Rule} {v : Value} {bound : Int}
    (isBound : r.lengthBound? = .ok (some bound)) (notNull : v.isNull = false) :
    r.failsLength wrong v = do return wrong (← lengthOf v) bound := by
  rw [failsLength, notNull, if_neg Bool.false_ne_true, isBound]
  rfl

/-- The rule fails on the value. -/
def fails (r : Rule) (v : Value) : Except NumeralError Bool :=
  match r.ruleType? with
  | some .notEmpty => .ok v.isEmpty
  | some .minLength => r.failsLength (fun length bound => decide (length < bound)) v
  | some .maxLength => r.failsLength (fun length bound => decide (bound < length)) v
  | some .email => if isUnset v then .ok false else do return !isAddress (← v.toText).toList
  | some .customPassword =>
    if isUnset v then .ok false else do return !(← passwordIssues v).isEmpty
  | none => .ok false

/-- The message of the rule if it fails on the value. -/
def failure? (r : Rule) (v : Value) : Except NumeralError (Option String) := do
  return if ← r.fails v then some r.message else none

theorem failure?_of_fails {r : Rule} {v : Value} {failed : Bool} (h : r.fails v = .ok failed) :
    r.failure? v = .ok (if failed then some r.message else none) := by
  rw [failure?, h]
  rfl

end Rule

namespace Validation

/-- The messages of all rules that fail on the value, in the order of the rules. -/
def failures (v : Value) : List Rule → Except NumeralError (List String)
  | [] => .ok []
  | r :: rest => do
    let first ← r.failure? v
    let others ← failures v rest
    return first.toList ++ others

end Validation

end FormEngine
