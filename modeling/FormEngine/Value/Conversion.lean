/-
  FormEngine/Value/Conversion.lean
  ================================
  **Conversions of form values** to text, number and truth value.

  Form values arrive in whatever shape the page produced: numbers as text, empty
  fields as blank text, several choices as lists.  Expressions are written with
  the conversions of the page in mind, so `"2" * 3` is 6 and `"a" + 1` is `"a1"`.
  Converting fails only on integers beyond the digit limit, and the truth value only
  on integers beyond all binary64 numbers.
-/
import FormEngine.Number.Text
import FormEngine.Value.Display

namespace FormEngine.Value

/-! ### Text -/

mutual

/-- The value as text.  A list is its elements joined by commas, null among them blank. -/
def toText : Value → Except NumeralError String
  | .null => .ok "null"
  | .bool b => .ok (if b then "true" else "false")
  | .number n => n.text
  | .text s => .ok s
  | .list _ items => do return String.intercalate "," (← itemTexts items)
  | .tuple _ items => do return String.intercalate "," (← itemTexts items)
  | .set i items => display (.set i items)
  | .mapping _ _ => .ok "[object Object]"
  | .date _ iso => .ok iso
  | .function i => display (.function i)

/-- The texts of the elements of a list. -/
def itemTexts : List Value → Except NumeralError (List String)
  | [] => .ok []
  | .null :: rest => do return "" :: (← itemTexts rest)
  | v :: rest => do
    let shown ← v.toText
    return shown :: (← itemTexts rest)

end

/-! ### Number -/

/-- The value as a normal number.  A list of one element counts as the text of that
    element, the empty list as zero; nothing else compound is a number. -/
def toNumber : Value → Except NumeralError Number
  | .null => .ok 0
  | .bool b => .ok (if b then 1 else 0)
  | .number n => .ok n.normalise
  | .text s => Number.ofText s
  | .list _ [] | .tuple _ [] => .ok 0
  | .list _ [v] | .tuple _ [v] => do Number.ofText (← v.toText)
  | _ => .ok Number.nan

/-! ### Truth and primitives -/

/-- A number is true unless it is zero or NaN.  The question for NaN is put to a binary64
    number, so that an integer beyond all of them has no answer. -/
def numberIsTruthy : Number → Except NumeralError Bool
  | .int n => if (Binary64.ofInt n).isFinite then .ok (n ≠ 0) else .error .beyondFloat
  | .float x => .ok (!(Number.float x).isZero && !(Number.float x).isNaN)

/-- Null, `false`, zero, NaN and the empty text are false; every other value is true. -/
def isTruthy : Value → Except NumeralError Bool
  | .null => .ok false
  | .bool b => .ok b
  | .number n => numberIsTruthy n
  | .text s => .ok (s ≠ "")
  | _ => .ok true

/-- Containers and dates become text; other values stay. -/
def toPrimitive : Value → Except NumeralError Value
  | .list i items => do return .text (← (Value.list i items).toText)
  | .tuple i items => do return .text (← (Value.tuple i items).toText)
  | .mapping i entries => do return .text (← (Value.mapping i entries).toText)
  | .date i iso => do return .text (← (Value.date i iso).toText)
  | v => .ok v

end FormEngine.Value
