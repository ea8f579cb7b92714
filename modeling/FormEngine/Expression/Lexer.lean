/-
  FormEngine/Expression/Lexer.lean
  ================================
  **From text to tokens.**

  Blanks separate tokens and are skipped.  A quote opens a string literal that
  ends at the same quote on the same line; a digit, or a point before a digit,
  opens a number literal, which may not run into a letter or digit of any script,
  `_` or `$`; a letter, `_` or `$` opens a word; everything else must be an
  operator.  Reading stops at the first character that opens nothing.
-/
import FormEngine.Expression.Token
import FormEngine.Number.Literal
import FormEngine.Text.Alphanumeric
import FormEngine.Text.Blank
import FormEngine.Text.Quoted

namespace FormEngine

/-! ### Errors -/

/-- Why a text is no sequence of tokens. -/
inductive LexFault where
  | unterminatedString
  | unterminatedEscape
  | badNumber (literal : String)
  | unexpected (character : Char)
deriving DecidableEq, Repr

/-- A fault and the position it is reported at. -/
structure LexError where
  fault : LexFault
  position : Nat
deriving DecidableEq, Repr

def LexFault.message : LexFault → String
  | .unterminatedString => "Unterminated string literal"
  | .unterminatedEscape => "Unterminated escape sequence"
  | .badNumber literal => "Invalid number literal near " ++ Text.quoted literal
  | .unexpected character => "Unexpected character: " ++ Text.quoted (String.ofList [character])

namespace Lexer

/-! ### Character classes -/

def isAsciiLetter (c : Char) : Bool :=
  (decide ('a' ≤ c) && decide (c ≤ 'z')) || (decide ('A' ≤ c) && decide (c ≤ 'Z'))

def isAsciiDigit (c : Char) : Bool := decide ('0' ≤ c) && decide (c ≤ '9')

/-- A character that can open a word. -/
def isWordStart (c : Char) : Bool := isAsciiLetter c || c == '_' || c == '$'

/-- A character that can continue a word. -/
def isWordPart (c : Char) : Bool := isWordStart c || isAsciiDigit c

/-- A character that a number literal may not run into. -/
def blocksNumber (c : Char) : Bool := Text.isAlphanumeric c || c == '_' || c == '$'

/-! ### The kinds of lexemes -/

/-- A token without its place: its kind, its text and how many characters it takes. -/
structure Lexeme where
  kind : TokenKind
  text : String
  length : Nat
deriving DecidableEq, Repr

/-- The character that an escape letter stands for. -/
def unescape (c : Char) : Char :=
  if c = 'n' then '\n'
  else if c = 't' then '\t'
  else if c = 'r' then '\r'
  else if c = '0' then Char.ofNat 0
  else if c = 'b' then Char.ofNat 8
  else if c = 'f' then Char.ofNat 12
  else if c = 'v' then Char.ofNat 11
  else c

/-- Reads a string literal after its opening quote: the content, and the number of characters
    up to the closing quote and with it.  `start` and `position` place the faults. -/
def stringBody (quote : Char) (start : Nat) :
    List Char → (position : Nat) → Except LexError (List Char × Nat)
  | [], _ => .error ⟨.unterminatedString, start⟩
  | ['\\'], position => .error ⟨.unterminatedEscape, position⟩
  | '\\' :: c :: s, position => do
    let (content, length) ← stringBody quote start s (position + 2)
    return (unescape c :: content, length + 2)
  | c :: s, position =>
    if c = quote then .ok ([], 1)
    else if c = '\n' then .error ⟨.unterminatedString, start⟩
    else do
      let (content, length) ← stringBody quote start s (position + 1)
      return (c :: content, length + 1)

/-- The number literal at the front of a text that opens one. -/
def number (s : List Char) (position : Nat) : Except LexError Lexeme :=
  match DecimalLiteral.scan s with
  | none => .error ⟨.badNumber "", position⟩
  | some (l, rest) =>
    let written := String.ofList l.chars
    match rest with
    | c :: _ =>
      if blocksNumber c then .error ⟨.badNumber written, position⟩
      else .ok ⟨if l.isInteger then .int else .float, written, l.chars.length⟩
    | [] => .ok ⟨if l.isInteger then .int else .float, written, l.chars.length⟩

/-- The word at the front of a text. -/
def word (s : List Char) : Lexeme :=
  let letters := s.takeWhile isWordPart
  let written := String.ofList letters
  ⟨TokenKind.ofWord written, written, letters.length⟩

/-- The operator at the front of a text. -/
def operator? (s : List Char) : Option Lexeme :=
  (operators.find? (fun o => o.1.toList.isPrefixOf s)).map
    (fun o => ⟨o.2, o.1, o.1.toList.length⟩)

/-- The text opens a number literal: a digit, or a point before a digit. -/
def opensNumber : List Char → Bool
  | c :: s => isAsciiDigit c || (c == '.' && s.head?.any isAsciiDigit)
  | [] => false

/-- The lexeme at the front of the text `c :: s`, whose first character is not blank. -/
def lexeme (c : Char) (s : List Char) (position : Nat) : Except LexError Lexeme :=
  if c = '\x22' ∨ c = '\x27' then do
    let (content, length) ← stringBody c position s (position + 1)
    return ⟨.string, String.ofList content, length + 1⟩
  else if opensNumber (c :: s) then number (c :: s) position
  else if isWordStart c then .ok (word (c :: s))
  else
    match operator? (c :: s) with
    | some l => .ok l
    | none => .error ⟨.unexpected c, position⟩

/-! ### The whole text -/

/-- The tokens of a text whose first character stands at `position`. -/
def tokensFrom : List Char → (position : Nat) → Except LexError (List Token)
  | [], position => .ok [Token.eof position]
  | c :: s, position =>
    if Text.isBlank c then tokensFrom s (position + 1)
    else
      match lexeme c s position with
      | .error e => .error e
      | .ok l => do
        let rest ← tokensFrom (s.drop (l.length - 1)) (position + l.length)
        return ⟨l.kind, l.text, position⟩ :: rest
termination_by s => s.length
decreasing_by all_goals simp; try omega

end Lexer

/-- The tokens of a text, ended by the end-of-text token. -/
def tokenize (source : String) : Except LexError (List Token) :=
  Lexer.tokensFrom source.toList 0

/-- The name is a single plain word and no keyword literal. -/
def isIdentifier (name : String) : Bool :=
  match name.toList with
  | [] => false
  | c :: s =>
    Lexer.isWordStart c && s.all Lexer.isWordPart && (keywords.lookup name).isNone

end FormEngine
