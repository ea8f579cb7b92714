/-
  FormEngine/Text/Quoted.lean
  ===========================
  **Quoted display** of a text inside a message.

  The text stands between single quotes, or between double quotes when it holds a
  single quote and no double one.  The enclosing quote and the backslash are
  preceded by a backslash; tab, newline and carriage return have letters; every
  other character that is not printable is written by its code point, with two,
  four or eight hexadecimal digits after `\x`, `\u` or `\U`.
-/
import FormEngine.Text.Numeral
import FormEngine.Text.Printable

namespace FormEngine.Text

/-- A code point as an escape, in the shortest of the three forms. -/
def codeEscape (n : Nat) : List Char :=
  if n ≤ 0xFF then '\\' :: 'x' :: hexadecimal 2 n
  else if n ≤ 0xFFFF then '\\' :: 'u' :: hexadecimal 4 n
  else '\\' :: 'U' :: hexadecimal 8 n

/-- One character of a text displayed between the quotes `quote`. -/
def displayedChar (quote c : Char) : List Char :=
  if c = quote ∨ c = '\\' then ['\\', c]
  else if c = '\t' then ['\\', 't']
  else if c = '\n' then ['\\', 'n']
  else if c = '\r' then ['\\', 'r']
  else if c.toNat < 0x20 ∨ c.toNat = 0x7F then codeEscape c.toNat
  else if c.toNat < 0x7F ∨ isPrintable c then [c]
  else codeEscape c.toNat

/-- The quote that encloses a displayed text. -/
def enclosingQuote (s : List Char) : Char :=
  if s.contains '\x27' && !s.contains '\x22' then '\x22' else '\x27'

/-- The text as it is displayed in a message. -/
def quoted (s : String) : String :=
  let quote := enclosingQuote s.toList
  String.ofList (quote :: s.toList.flatMap (displayedChar quote) ++ [quote])

end FormEngine.Text
