/-
  FormEngine/Document/Writer.lean
  ===============================
  **Writing values as documents** of the strict dialect.

  Only ASCII is written: every other character of a text is escaped by its UTF-16
  code units.  A document is written on one line, or with every element on a line
  of its own, indented by two spaces a level.  What the dialect has no form for,
  such as a date, is written as its text.
-/
import FormEngine.Number.Shortest
import FormEngine.Value.Conversion

namespace FormEngine.Document

/-- A code unit as an escape. -/
def unitEscape (n : Nat) : List Char := '\\' :: 'u' :: Text.hexadecimal 4 n

/-- One character inside the quotes of a written string. -/
def writtenChar (c : Char) : List Char :=
  if c = '\x22' ∨ c = '\\' then ['\\', c]
  else if c = '\n' then ['\\', 'n']
  else if c = '\r' then ['\\', 'r']
  else if c = '\t' then ['\\', 't']
  else if c.toNat = 8 then ['\\', 'b']
  else if c.toNat = 12 then ['\\', 'f']
  else if 0x20 ≤ c.toNat ∧ c.toNat ≤ 0x7E then [c]
  else if c.toNat < 0x10000 then unitEscape c.toNat
  else
    unitEscape (0xD800 + (c.toNat - 0x10000) / 0x400)
      ++ unitEscape (0xDC00 + (c.toNat - 0x10000) % 0x400)

/-- A text in quotes. -/
def writtenString (s : String) : String :=
  String.ofList ('\x22' :: s.toList.flatMap writtenChar ++ ['\x22'])

/-- A binary64 number; NaN and the infinities are words. -/
def writtenFloat : Binary64 → String
  | .nan => "NaN"
  | .infinite negative => if negative then "-Infinity" else "Infinity"
  | x => x.text

/-- Elements between two brackets, on one line, or on lines of their own below `level`. -/
def bracketed (indented : Bool) (level : Nat) (opening closing : String) (elements : List String) :
    String :=
  let line (level : Nat) : String := "\n" ++ String.ofList (List.replicate (2 * level) ' ')
  if elements.isEmpty then opening ++ closing
  else if indented then
    opening ++ line (level + 1) ++ String.intercalate ("," ++ line (level + 1)) elements
      ++ line level ++ closing
  else opening ++ String.intercalate ", " elements ++ closing

variable (indented : Bool)

mutual

/-- A value at a level of indentation. -/
def writeAt (level : Nat) : Value → Except NumeralError String
  | .null => .ok "null"
  | .bool b => .ok (if b then "true" else "false")
  | .number (.int n) => Text.writeDecimal n
  | .number (.float x) => .ok (writtenFloat x)
  | .text s => .ok (writtenString s)
  | .list _ vs => do
    return bracketed indented level "[" "]" (← writeItems (level + 1) vs)
  | .tuple _ vs => do
    return bracketed indented level "[" "]" (← writeItems (level + 1) vs)
  | .mapping _ es => do
    return bracketed indented level "\x7b" "\x7d" (← writeEntries (level + 1) es)
  | .set i vs => do return writtenString (← (Value.set i vs).toText)
  | .date _ iso => .ok (writtenString iso)
  | .function i => do return writtenString (← (Value.function i).toText)

def writeItems (level : Nat) : List Value → Except NumeralError (List String)
  | [] => .ok []
  | v :: rest => do
    let written ← writeAt level v
    return written :: (← writeItems level rest)

def writeEntries (level : Nat) : List (String × Value) → Except NumeralError (List String)
  | [] => .ok []
  | (key, v) :: rest => do
    let written ← writeAt level v
    return (writtenString key ++ ": " ++ written) :: (← writeEntries level rest)

end

/-- A value as a document. -/
def write (v : Value) : Except NumeralError String := writeAt indented 0 v

end FormEngine.Document
