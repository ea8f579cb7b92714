/-
  FormEngine/Text/Numeral.lean
  ============================
  **Numerals**: integers written in a base, and the limit on their length.

  A decimal numeral of more than `digitLimit` digits is neither read nor written:
  conversion between text and integer is quadratic in the length, and form input
  is untrusted.  The limit does not hold for bases that are powers of two, whose
  conversion is linear.  `NumeralError` is the one way in which converting an
  integer can fail.
-/
import FormEngine.Text.DecimalDigit

namespace FormEngine

/-- The greatest number of digits that is converted. -/
def digitLimit : Nat := 4300

/-- Why an integer is not converted. -/
inductive NumeralError where
  /-- A text with this many digits was to be read. -/
  | reading (digits : Nat)
  /-- An integer with too many digits was to be written. -/
  | writing
  /-- An integer beyond all binary64 numbers was to be taken for one. -/
  | beyondFloat
deriving DecidableEq, Repr

/-- The explanation shown to the user. -/
def NumeralError.message : NumeralError → String
  | .reading digits =>
    "Exceeds the limit (" ++ digitLimit.repr ++ " digits) for integer string conversion: value has "
      ++ digits.repr ++ " digits; use sys.set_int_max_str_digits() to increase the limit"
  | .writing =>
    "Exceeds the limit (" ++ digitLimit.repr ++ " digits) for integer string conversion; "
      ++ "use sys.set_int_max_str_digits() to increase the limit"
  | .beyondFloat => "int too large to convert to float"

namespace Text

/-! ### Reading -/

/-- The value of an ASCII digit or letter, letters counting from ten; capitals are not read. -/
def baseDigit? (base : Nat) (c : Char) : Option Nat :=
  let value? :=
    if 48 ≤ c.toNat ∧ c.toNat ≤ 57 then some (c.toNat - 48)
    else if 97 ≤ c.toNat ∧ c.toNat ≤ 122 then some (c.toNat - 87)
    else none
  value?.filter (fun d => decide (d < base))

/-- The number that digit values write in a base, most significant first. -/
def valueInBase (base : Nat) (digits : List Nat) : Nat :=
  digits.foldl (fun n d => base * n + d) 0

/-- The base is a power of two up to 32, for which no length limit holds. -/
def isBinaryBase (base : Nat) : Bool := [2, 4, 8, 16, 32].contains base

/-- Reads decimal digits of any script. -/
def readDecimal (digits : List Char) : Except NumeralError Nat :=
  if digits.length ≤ digitLimit then .ok (decimalValue digits)
  else .error (.reading digits.length)

/-- Reads digit values in a base. -/
def readInBase (base : Nat) (digits : List Nat) : Except NumeralError Nat :=
  if isBinaryBase base || decide (digits.length ≤ digitLimit) then .ok (valueInBase base digits)
  else .error (.reading digits.length)

/-! ### Writing -/

/-- An integer in decimal, with a minus sign where it is negative. -/
def decimal (n : Int) : String :=
  if n < 0 then "-" ++ n.natAbs.repr else n.natAbs.repr

/-- Writes an integer in decimal unless it has too many digits. -/
def writeDecimal (n : Int) : Except NumeralError String :=
  if n.natAbs < Nat.pow 10 digitLimit then .ok (decimal n) else .error .writing

/-- `n` in lower-case hexadecimal, filled up with zeros to at least `width` digits. -/
def hexadecimal (width n : Nat) : List Char :=
  let digits := Nat.toDigits 16 n
  List.replicate (width - digits.length) '0' ++ digits

theorem readDecimal_of_length_le {digits : List Char} (h : digits.length ≤ digitLimit) :
    readDecimal digits = .ok (decimalValue digits) := by
  simp [readDecimal, h]

theorem writeDecimal_of_lt {n : Int} (h : n.natAbs < Nat.pow 10 digitLimit) :
    writeDecimal n = .ok (decimal n) := by
  simp only [writeDecimal, h, if_true]

end Text

end FormEngine
