/-
  FormEngine/Number/Literal.lean
  ==============================
  **Unsigned decimal literals**: `12`, `12.`, `12.5`, `.5`, each with an optional
  exponent such as `e-3`.

  One scanner serves the lexer of expressions, the conversion of text to a number
  and the reading of the number at the front of a text.  It takes the longest
  literal at the front: digits of any script, then a point with further digits,
  then an exponent if at least one digit follows its letter and sign.  A literal
  with a point or an exponent is read as a binary64 number, any other as an
  integer.
-/
import FormEngine.Text.Numeral
import FormEngine.Number.Binary64

namespace FormEngine

/-- The exponent of a literal: its letter, its sign and its digits, as written. -/
structure LiteralExponent where
  letter : Char
  sign : List Char
  digits : List Char
deriving DecidableEq, Repr

/-- The characters of the exponent. -/
def LiteralExponent.chars (e : LiteralExponent) : List Char := e.letter :: e.sign ++ e.digits

/-- A decimal literal, part by part. `fraction` holds the digits after a point. -/
structure DecimalLiteral where
  whole : List Char
  fraction : Option (List Char)
  exponent : Option LiteralExponent
deriving DecidableEq, Repr

namespace DecimalLiteral

/-- The characters of the literal. -/
def chars (l : DecimalLiteral) : List Char :=
  l.whole
    ++ (match l.fraction with | none => [] | some digits => '.' :: digits)
    ++ l.exponent.elim [] LiteralExponent.chars

/-- The literal has neither point nor exponent. -/
def isInteger (l : DecimalLiteral) : Bool := l.fraction.isNone && l.exponent.isNone

/-! ### Scanning -/

/-- The digits at the front of a text, and the rest. -/
def spanDigits (s : List Char) : List Char × List Char :=
  (s.takeWhile Text.isDecimalDigit, s.dropWhile Text.isDecimalDigit)

/-- The sign at the front of a text, if there is one, and the rest. -/
def spanSign : List Char → List Char × List Char
  | [] => ([], [])
  | c :: s => if c = '+' ∨ c = '-' then ([c], s) else ([], c :: s)

/-- The exponent at the front of a text. -/
def scanExponent : List Char → Option LiteralExponent × List Char
  | [] => (none, [])
  | c :: s =>
    if c = 'e' ∨ c = 'E' then
      let (sign, afterSign) := spanSign s
      let (digits, rest) := spanDigits afterSign
      if digits.isEmpty then (none, c :: s) else (some ⟨c, sign, digits⟩, rest)
    else (none, c :: s)

/-- The longest literal at the front of a text, and the rest. -/
def scan (s : List Char) : Option (DecimalLiteral × List Char) :=
  let (whole, afterWhole) := spanDigits s
  match afterWhole with
  | '.' :: afterPoint =>
    let (fraction, afterFraction) := spanDigits afterPoint
    if whole.isEmpty && fraction.isEmpty then none
    else
      let (exponent, rest) := scanExponent afterFraction
      some (⟨whole, some fraction, exponent⟩, rest)
  | _ =>
    if whole.isEmpty then none
    else
      let (exponent, rest) := scanExponent afterWhole
      some (⟨whole, none, exponent⟩, rest)

/-! ### Nothing is lost -/

theorem spanDigits_append (s : List Char) : (spanDigits s).1 ++ (spanDigits s).2 = s :=
  List.takeWhile_append_dropWhile

theorem spanSign_append (s : List Char) : (spanSign s).1 ++ (spanSign s).2 = s := by
  cases s with
  | nil => rfl
  | cons c s => by_cases sign : c = '+' ∨ c = '-' <;> simp [spanSign, sign]

theorem scanExponent_append (s : List Char) :
    (scanExponent s).1.elim [] LiteralExponent.chars ++ (scanExponent s).2 = s := by
  cases s with
  | nil => rfl
  | cons c s =>
    by_cases letter : c = 'e' ∨ c = 'E'
    · by_cases digits : (spanDigits (spanSign s).2).1.isEmpty = true
      · simp [scanExponent, letter, digits]
      · simp [scanExponent, letter, digits, LiteralExponent.chars, spanDigits_append,
          spanSign_append]
    · simp [scanExponent, letter]

/-- A literal and the rest make up the text. -/
theorem scan_append {s rest : List Char} {l : DecimalLiteral} (h : scan s = some (l, rest)) :
    l.chars ++ rest = s := by
  have whole := spanDigits_append s
  unfold scan at h
  generalize spanDigits s = parts at h whole
  obtain ⟨digits, afterWhole⟩ := parts
  dsimp only at h whole
  split at h
  · next afterPoint =>
    have fraction := spanDigits_append afterPoint
    have exponent := scanExponent_append (spanDigits afterPoint).2
    split at h
    · cases h
    · cases h
      rw [← whole]
      simp [chars, exponent, fraction]
  · have exponent := scanExponent_append afterWhole
    split at h
    · cases h
    · cases h
      rw [← whole]
      simp [chars, exponent]

/-- The literal that a whole text is. -/
def ofText? (s : List Char) : Option DecimalLiteral :=
  match scan s with
  | some (l, []) => some l
  | _ => none

/-! ### Value -/

/-- The exponent of ten written after the letter. -/
def writtenExponent (l : DecimalLiteral) : Int :=
  match l.exponent with
  | none => 0
  | some e =>
    let n : Int := Text.decimalValue e.digits
    if e.sign = ['-'] then -n else n

/-- The nearest binary64 number, with a sign. -/
def toBinary64 (negative : Bool) (l : DecimalLiteral) : Binary64 :=
  let fraction := l.fraction.getD []
  Binary64.ofDecimal negative (Text.decimalValue (l.whole ++ fraction))
    (l.writtenExponent - fraction.length)

/-- The digits of a literal without point and exponent, as an integer. -/
def toNat (l : DecimalLiteral) : Except NumeralError Nat := Text.readDecimal l.whole

end DecimalLiteral

end FormEngine
