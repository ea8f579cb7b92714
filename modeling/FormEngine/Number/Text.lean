/-
  FormEngine/Number/Text.lean
  ===========================
  **Numbers and text**: how a number is written into a text, and how a text is
  read as a number.

  A whole text is a number when, blanks at its ends aside, it is a decimal literal
  with an optional sign, a hexadecimal numeral, or an infinity; the blank text is
  zero and everything else NaN.  Reading from the front of a text takes the longest
  number there and ignores what follows.
-/
import FormEngine.Number.Basic
import FormEngine.Number.Literal
import FormEngine.Number.Shortest
import FormEngine.Text.Blank

namespace FormEngine.Number

/-! ### Writing -/

/-- A binary64 number as form text: an integral value below 10^21 without a point. -/
def floatText (x : Binary64) : String :=
  match x with
  | .nan => "NaN"
  | .infinite negative => if negative then "-Infinity" else "Infinity"
  | x =>
    match x.toInt? with
    | some n => if n.natAbs < Nat.pow 10 21 then Text.decimal n else x.text
    | none => x.text

/-- A number as form text. -/
def text : Number → Except NumeralError String
  | .int n => Text.writeDecimal n
  | .float x => .ok (floatText x)

/-! ### Reading -/

/-- The digits of a hexadecimal numeral, when the text is one: `0x` or `0X` and at
    least one digit in either case. -/
def hexDigits? : List Char → Option (List Nat)
  | '0' :: x :: digits =>
    if (x = 'x' ∨ x = 'X') ∧ ¬ digits.isEmpty then
      digits.mapM (fun c => Text.baseDigit? 16 c.toLower)
    else none
  | _ => none

/-- A decimal literal with a sign, as a normal number. -/
def ofLiteral (negative : Bool) (l : DecimalLiteral) : Except NumeralError Number :=
  if l.isInteger then do
    let n ← l.toNat
    return normalise (.int (if negative then -(n : Int) else n))
  else return normalise (.float (l.toBinary64 negative))

/-- A text without blanks at its ends, as a number. -/
def ofTrimmed (s : List Char) : Except NumeralError Number :=
  if s.isEmpty then return 0
  else
    let (sign, rest) := DecimalLiteral.spanSign s
    match DecimalLiteral.ofText? rest with
    | some l => ofLiteral (sign = ['-']) l
    | none =>
      match hexDigits? s with
      | some digits => return normalise (.int (Text.valueInBase 16 digits))
      | none => return if rest = "Infinity".toList then infinity (sign = ['-']) else nan

/-- A whole text as a number. -/
def ofText (s : String) : Except NumeralError Number := ofTrimmed (Text.trim s.toList)

/-- The number at the front of a text, NaN if there is none.  Its length is not
    limited, since it is read as a binary64 number. -/
def ofFront (s : String) : Number :=
  let (sign, rest) := DecimalLiteral.spanSign (Text.trimLeft s.toList)
  let negative := decide (sign = ['-'])
  if "Infinity".toList.isPrefixOf rest then infinity negative
  else
    match DecimalLiteral.scan rest with
    | some (l, _) => normalise (.float (l.toBinary64 negative))
    | none => nan

end FormEngine.Number
