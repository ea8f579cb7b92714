/-
  FormEngine/Document/Reader.lean
  ===============================
  **Reading documents**: texts that hold one value in brackets, quotes and words.

  Assignments on the command line come as such documents, and the command line reads
  schemas and value maps as such, in one of two dialects that share strings, lists and
  mappings and differ in the bare words they read (`Dialect`).  The loose dialect is
  only what they share: a document laid out in lines is malformed here.  A document
  either is read, or is malformed, or holds a numeral beyond the digit limit.

  Every list and mapping that is read gets an identity of its own: the document's
  number and how many characters follow its opening bracket.  Of several entries
  under one key the last one counts, at the place of the first.
-/
import FormEngine.Number.Literal
import FormEngine.Record
import FormEngine.Text.Blank
import FormEngine.Value.Basic

namespace FormEngine

/-- Why a document is not read. -/
inductive DocumentFault where
  | malformed
  | numeral (error : NumeralError)
deriving DecidableEq, Repr

namespace Document

/-- What distinguishes the dialects: how a value that is no string, list or mapping is read,
    and what an empty document means. -/
structure Dialect where
  word : List Char → Except DocumentFault (Value × List Char)
  empty : Except DocumentFault Value

/-! ### Space -/

def isSpace (c : Char) : Bool := c == ' ' || c == '\t' || c == '\n' || c == '\r'

def skipSpace (s : List Char) : List Char := s.dropWhile isSpace

/-! ### Strings -/

/-- The character of a one-letter escape. -/
def escapedChar? (c : Char) : Option Char :=
  if c = '\x22' ∨ c = '\\' ∨ c = '/' then some c
  else if c = 'b' then some (Char.ofNat 8)
  else if c = 'f' then some (Char.ofNat 12)
  else if c = 'n' then some '\n'
  else if c = 'r' then some '\r'
  else if c = 't' then some '\t'
  else none

/-- The code unit of four hexadecimal digits. -/
def codeUnit? (digits : List Char) : Option Nat :=
  if digits.length = 4 then
    (digits.mapM (fun c => Text.baseDigit? 16 c.toLower)).map (Text.valueInBase 16)
  else none

/-- The characters of a sequence of code points in which those beyond U+FFFF may be written as
    two surrogates. -/
def charsOfUnits : List Nat → List Char
  | [] => []
  | [n] => [Char.ofNat n]
  | high :: low :: rest =>
    if 0xD800 ≤ high ∧ high < 0xDC00 ∧ 0xDC00 ≤ low ∧ low < 0xE000 then
      Char.ofNat (0x10000 + (high - 0xD800) * 0x400 + (low - 0xDC00)) :: charsOfUnits rest
    else Char.ofNat high :: charsOfUnits (low :: rest)

/-- Reads the code points of a string after its opening quote. -/
def stringUnits : List Char → Except DocumentFault (List Nat × List Char)
  | [] => .error .malformed
  | '\x22' :: s => .ok ([], s)
  | '\\' :: 'u' :: a :: b :: c :: d :: s =>
    match codeUnit? [a, b, c, d] with
    | some unit => do
      let (units, rest) ← stringUnits s
      return (unit :: units, rest)
    | none => .error .malformed
  | '\\' :: c :: s =>
    match escapedChar? c with
    | some char => do
      let (units, rest) ← stringUnits s
      return (char.toNat :: units, rest)
    | none => .error .malformed
  | c :: s =>
    if c = '\\' ∨ c.toNat < 0x20 then .error .malformed
    else do
      let (units, rest) ← stringUnits s
      return (c.toNat :: units, rest)

/-- Reads a string after its opening quote. -/
def string (s : List Char) : Except DocumentFault (String × List Char) := do
  let (units, rest) ← stringUnits s
  return (String.ofList (charsOfUnits units), rest)

/-- Reads a key and the colon after it. -/
def key : List Char → Except DocumentFault (String × List Char)
  | '\x22' :: s => do
    let (content, rest) ← string s
    match skipSpace rest with
    | ':' :: rest => return (content, skipSpace rest)
    | _ => .error .malformed
  | _ => .error .malformed

/-! ### Values -/

variable (dialect : Dialect) (document : Nat)

mutual

/-- Reads a value; `fuel` bounds the steps. -/
def value : (fuel : Nat) → List Char → Except DocumentFault (Value × List Char)
  | 0, _ => .error .malformed
  | fuel + 1, s =>
    match s with
    | '\x22' :: rest => do
      let (content, rest) ← string rest
      return (.text content, rest)
    | '[' :: inside =>
      match skipSpace inside with
      | ']' :: rest => .ok (.list (.read document inside.length) [], rest)
      | first => do
        let (vs, rest) ← items fuel first
        return (.list (.read document inside.length) vs, rest)
    | '\x7b' :: inside =>
      match skipSpace inside with
      | '\x7d' :: rest => .ok (.mapping (.read document inside.length) [], rest)
      | first => do
        let (es, rest) ← entries fuel first
        return (.mapping (.read document inside.length) (Record.ofEntries es), rest)
    | s => dialect.word s

/-- Reads the elements of a list up to its closing bracket. -/
def items : (fuel : Nat) → List Char → Except DocumentFault (List Value × List Char)
  | 0, _ => .error .malformed
  | fuel + 1, s => do
    let (v, rest) ← value fuel s
    match skipSpace rest with
    | ']' :: rest => return ([v], rest)
    | ',' :: rest => do
      let (vs, rest) ← items fuel (skipSpace rest)
      return (v :: vs, rest)
    | _ => .error .malformed

/-- Reads the entries of a mapping up to its closing bracket. -/
def entries : (fuel : Nat) → List Char → Except DocumentFault (List (String × Value) × List Char)
  | 0, _ => .error .malformed
  | fuel + 1, s => do
    let (k, rest) ← key s
    let (v, rest) ← value fuel rest
    match skipSpace rest with
    | '\x7d' :: rest => return ([(k, v)], rest)
    | ',' :: rest => do
      let (es, rest) ← entries fuel (skipSpace rest)
      return ((k, v) :: es, rest)
    | _ => .error .malformed

end

/-- The value of a whole document. -/
def read (text : String) : Except DocumentFault Value :=
  match skipSpace text.toList with
  | [] => dialect.empty
  | s => do
    let (v, rest) ← value dialect document (2 * s.length + 2) s
    if (skipSpace rest).isEmpty then return v else .error .malformed

/-! ### Numbers -/

/-- Cuts a word off the front of a text. -/
def literalWord? (word : String) (s : List Char) : Option (List Char) :=
  if word.toList.isPrefixOf s then some (s.drop word.length) else none

/-- Reads one of some words, or else a number. -/
def wordOrNumber (words : List (String × Value))
    (number : List Char → Except DocumentFault (Value × List Char)) (s : List Char) :
    Except DocumentFault (Value × List Char) :=
  match words.findSome? (fun w => (literalWord? w.1 s).map (fun rest => (w.2, rest))) with
  | some found => .ok found
  | none => number s

/-- The ASCII digits at the front of a text, and the rest. -/
def spanAsciiDigits (s : List Char) : List Char × List Char :=
  (s.takeWhile Char.isDigit, s.dropWhile Char.isDigit)

section Parts

/- The digits at the front of a text, as the kind of document writes them, and the rest. -/
variable (span : List Char → List Char × List Char)

/-- The integer part of a number: a zero, or digits that begin with another digit. -/
def integerPart? (s : List Char) : Option (List Char × List Char) :=
  match span s with
  | ([], _) => none
  | ('0' :: _, _) => some (['0'], s.tail)
  | (digits, rest) => some (digits, rest)

/-- The fraction at the front of a text: a point and at least one digit. -/
def fractionPart : List Char → Option (List Char) × List Char
  | '.' :: s =>
    match span s with
    | ([], _) => (none, '.' :: s)
    | (digits, rest) => (some digits, rest)
  | s => (none, s)

/-- The exponent at the front of a text. -/
def exponentPart : List Char → Option LiteralExponent × List Char
  | c :: s =>
    if c = 'e' ∨ c = 'E' then
      let (sign, afterSign) := DecimalLiteral.spanSign s
      match span afterSign with
      | ([], _) => (none, c :: s)
      | (digits, rest) => (some ⟨c, sign, digits⟩, rest)
    else (none, c :: s)
  | [] => (none, [])

end Parts

/-- A literal with a sign, as a value: an integer, or a binary64 number if it has a point or an
    exponent. -/
def numberValue (negative : Bool) (l : DecimalLiteral) : Except DocumentFault Value :=
  if l.isInteger then
    match l.toNat with
    | .ok n => .ok (.int (if negative then -(n : Int) else n))
    | .error e => .error (.numeral e)
  else .ok (.float (l.toBinary64 negative))

/-- Reads a number without its sign. -/
def unsignedNumber (span : List Char → List Char × List Char) (negative : Bool) (s : List Char) :
    Except DocumentFault (Value × List Char) :=
  match integerPart? span s with
  | none => .error .malformed
  | some (whole, rest) =>
    let fraction := fractionPart span rest
    let exponent := exponentPart span fraction.2
    (numberValue negative ⟨whole, fraction.1, exponent.1⟩).map (fun v => (v, exponent.2))

/-- Reads a number. -/
def number : List Char → Except DocumentFault (Value × List Char)
  | '-' :: unsigned => unsignedNumber spanAsciiDigits true unsigned
  | s => unsignedNumber spanAsciiDigits false s

/-! ### The strict dialect -/

/-- The bare words of the strict dialect, numbers aside. -/
def strictWords : List (String × Value) :=
  [("null", .null), ("true", .bool true), ("false", .bool false),
   ("NaN", .float .nan), ("Infinity", .float (.infinite false)),
   ("-Infinity", .float (.infinite true))]

/-- The strict dialect: only the words above and numbers are bare. -/
def strict : Dialect where
  word := wordOrNumber strictWords number
  empty := .error .malformed

/-! ### The loose dialect -/

/-- A character that ends a bare word. -/
def endsWord (c : Char) : Bool := isSpace c || [',', ':', '[', ']', '\x7b', '\x7d'].contains c

/-- The number that a whole word without its sign is.  An exponent is part of a number only
    after a point and with a sign. -/
def looseNumber? (negative : Bool) (s : List Char) : Option (Except DocumentFault Value) :=
  match integerPart? spanAsciiDigits s with
  | none => none
  | some (whole, rest) =>
    let fraction := fractionPart spanAsciiDigits rest
    let exponent := exponentPart spanAsciiDigits fraction.2
    if exponent.2.isEmpty && exponent.1.all (fun e => fraction.1.isSome && !e.sign.isEmpty) then
      some (numberValue negative ⟨whole, fraction.1, exponent.1⟩)
    else none

/-- What a bare word of the loose dialect means; a word that is nothing else is a text. -/
def looseWord (w : List Char) : Except DocumentFault Value :=
  if w = "null".toList then .ok .null
  else if w = "true".toList then .ok (.bool true)
  else if w = "false".toList then .ok (.bool false)
  else
    let number? :=
      match w with
      | '-' :: unsigned => looseNumber? true unsigned
      | w => looseNumber? false w
    number?.getD (.ok (.text (String.ofList w)))

/-- The loose dialect, in which every bare word has a meaning and the empty document is null. -/
def looseBy (meaning : List Char → Except DocumentFault Value) : Dialect where
  word s :=
    let w := s.takeWhile (fun c => !endsWord c)
    if w.isEmpty then .error .malformed
    else (meaning w).map (fun v => (v, s.drop w.length))
  empty := .ok .null

/-- The value of a loose document.  Its shape is read before any word gets its meaning, so a
    malformed document is malformed also behind a numeral beyond the digit limit. -/
def readLoose (document : Nat) (text : String) : Except DocumentFault Value := do
  let _ ← read (looseBy fun _ => .ok .null) document text
  read (looseBy looseWord) document text

end Document

end FormEngine
