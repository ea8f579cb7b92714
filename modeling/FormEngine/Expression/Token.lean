/-
  FormEngine/Expression/Token.lean
  ================================
  **Tokens of the expression language.**

  Statement punctuation (`;`, braces, assignment, arrows, template quotes) has
  tokens too, although no expression contains it: the screening can then name the
  construct that was tried instead of complaining about a character.
-/

namespace FormEngine

/-- The kind of a token. -/
inductive TokenKind where
  | int | float | string
  | ident | true | false | null | undefined | nan | infinity
  | plus | minus | star | starstar | slash | percent
  | eq | ne | strictEq | strictNe | lt | gt | le | ge
  | and | or | nullish | not | question | colon
  | lparen | rparen | lbracket | rbracket | comma | dot
  | semicolon | lbrace | rbrace | assign | update | arrow | backtick
  | eof
deriving DecidableEq, Repr

/-- The name of a token kind in messages. -/
def TokenKind.name : TokenKind → String
  | .int => "int" | .float => "float" | .string => "string"
  | .ident => "ident" | .true => "true" | .false => "false" | .null => "null"
  | .undefined => "undefined" | .nan => "nan" | .infinity => "infinity"
  | .plus => "plus" | .minus => "minus" | .star => "star" | .starstar => "starstar"
  | .slash => "slash" | .percent => "percent"
  | .eq => "eq" | .ne => "ne" | .strictEq => "strict_eq" | .strictNe => "strict_ne"
  | .lt => "lt" | .gt => "gt" | .le => "le" | .ge => "ge"
  | .and => "and" | .or => "or" | .nullish => "nullish" | .not => "not"
  | .question => "question" | .colon => "colon"
  | .lparen => "lparen" | .rparen => "rparen" | .lbracket => "lbracket"
  | .rbracket => "rbracket" | .comma => "comma" | .dot => "dot"
  | .semicolon => "semicolon" | .lbrace => "lbrace" | .rbrace => "rbrace"
  | .assign => "assign" | .update => "update" | .arrow => "arrow"
  | .backtick => "backtick" | .eof => "eof"

/-- A token: its kind, its text (the content of a string literal, else the characters as
    written) and the number of characters before it. -/
structure Token where
  kind : TokenKind
  text : String
  position : Nat
deriving DecidableEq, Repr

/-- The token that ends every sequence of tokens. -/
def Token.eof (position : Nat) : Token := ⟨.eof, "", position⟩

/-- The words that are literals and not names. -/
def keywords : List (String × TokenKind) :=
  [("true", .true), ("false", .false), ("null", .null), ("undefined", .undefined),
   ("NaN", .nan), ("Infinity", .infinity)]

/-- The operators and punctuation, every one before its own beginnings, so that the first
    match is the longest. -/
def operators : List (String × TokenKind) :=
  [("===", .strictEq), ("!==", .strictNe), ("**", .starstar), ("==", .eq), ("!=", .ne),
   ("<=", .le), (">=", .ge), ("&&", .and), ("||", .or), ("??", .nullish), ("=>", .arrow),
   ("++", .update), ("--", .update), ("+=", .assign), ("-=", .assign), ("*=", .assign),
   ("/=", .assign), ("%=", .assign), ("+", .plus), ("-", .minus), ("*", .star), ("/", .slash),
   ("%", .percent), ("<", .lt), (">", .gt), ("!", .not), ("?", .question), (":", .colon),
   ("(", .lparen), (")", .rparen), ("[", .lbracket), ("]", .rbracket), (",", .comma),
   (".", .dot), (";", .semicolon), ("\x7b", .lbrace), ("\x7d", .rbrace), ("=", .assign),
   ("\x60", .backtick)]

/-- The kind of a word: a keyword literal or a name. -/
def TokenKind.ofWord (word : String) : TokenKind :=
  (keywords.lookup word).getD .ident

end FormEngine
