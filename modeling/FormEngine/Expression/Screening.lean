/-
  FormEngine/Expression/Screening.lean
  ====================================
  **Screening**: what an expression may not contain.

  The tokens are screened for names that are denied (the environment of the page,
  reflection, the keywords of statements, everything that begins with two
  underscores), for statement punctuation, and for a property access by text in
  brackets.  The tree is screened for calls and constants outside the library.
  Words inside a text literal are never looked at.
-/
import FormEngine.Expression.Lexer
import FormEngine.Expression.Traversal

namespace FormEngine

/-- Something that an expression may not contain. -/
inductive Forbidden where
  | identifier (name : String)
  /-- A token of statement punctuation. -/
  | statement (kind : TokenKind)
  /-- A property access by text in brackets. -/
  | bracketAccess
  | space (name : String)
  | function (owner name : String)
  | property (owner name : String)
deriving DecidableEq, Repr

namespace Screening

/-! ### Denied names -/

/-- Names that reach the environment: dynamic evaluation, timers, modules, globals, documents,
    storage and network. -/
def hostNames : List String :=
  ["eval", "Function", "setTimeout", "setInterval", "setImmediate", "require", "import",
   "export", "process", "global", "globalThis", "module", "exports", "window", "document",
   "localStorage", "sessionStorage", "indexedDB", "fetch", "XMLHttpRequest", "WebSocket",
   "navigator"]

/-- Names that reach the inside of objects. -/
def reflectionNames : List String := ["__proto__", "constructor", "prototype"]

/-- Words that begin statements, declarations or operators of another kind. -/
def keywordNames : List String :=
  ["this", "delete", "void", "typeof", "instanceof", "in", "with", "try", "catch", "finally",
   "throw", "for", "while", "do", "switch", "case", "break", "continue", "return", "var", "let",
   "const", "class", "extends", "static", "yield", "async", "await", "new", "if", "else",
   "function", "super", "debugger"]

/-- The name may not be used. -/
def isDenied (name : String) : Bool :=
  hostNames.contains name || reflectionNames.contains name || keywordNames.contains name
    || "__".toList.isPrefixOf name.toList

/-- The name can stand for a variable: a plain word, neither a namespace nor denied. -/
def isBindable (name : String) : Bool :=
  isIdentifier name && !Library.isSpace name && !isDenied name

/-! ### Tokens -/

/-- What a token of statement punctuation stands for. -/
def statement? : TokenKind → Option String
  | .semicolon => some "statement separator ';'"
  | .lbrace => some "block or object literal '\x7b'"
  | .rbrace => some "block or object literal '\x7d'"
  | .assign => some "assignment"
  | .update => some "increment/decrement"
  | .arrow => some "arrow function"
  | .backtick => some "template literal"
  | _ => none

/-- A token that ends a value, so that a bracket after it opens an access and not a list. -/
def endsValue : TokenKind → Bool
  | .ident | .rparen | .rbracket | .string | .int | .float | .true | .false | .null
  | .undefined | .nan | .infinity => true
  | _ => false

/-- What is forbidden about a token, given the kinds of the tokens before and after it. -/
def forbiddenToken? (before : Option TokenKind) (t : Token) (after : Option TokenKind) :
    Option Forbidden :=
  if t.kind = .ident ∧ isDenied t.text then some (.identifier t.text)
  else if (statement? t.kind).isSome then some (.statement t.kind)
  else if t.kind = .lbracket ∧ before.any endsValue ∧ after = some .string then
    some .bracketAccess
  else none

/-- The first forbidden token and its position. -/
def screenTokens (before : Option TokenKind) : List Token → Option (Forbidden × Nat)
  | [] => none
  | t :: rest =>
    match forbiddenToken? before t (rest.head?.map Token.kind) with
    | some f => some (f, t.position)
    | none => screenTokens (some t.kind) rest

/-! ### Nodes -/

/-- What is forbidden about a node: a call or a constant outside the library. -/
def forbiddenNode? : Expr → Option Forbidden
  | .call space name _ =>
    if !Library.isSpace space then some (.space space)
    else if (Library.function? space name).isNone then some (.function space name)
    else none
  | .member (.identifier space) name =>
    if Library.isSpace space && (Library.constant? space name).isNone then
      some (.property space name)
    else none
  | _ => none

/-- The first forbidden node of an expression. -/
def screenExpr (e : Expr) : Option Forbidden := e.walk.findSome? forbiddenNode?

end Screening

def Forbidden.message : Forbidden → String
  | .identifier name => "Forbidden identifier: " ++ name
  | .statement kind => "Forbidden construct: " ++ (Screening.statement? kind).getD ""
  | .bracketAccess => "Forbidden construct: bracket property access"
  | .space denied => "Function namespace not allowed: " ++ denied
  | .function owner name => "Function not allowed: " ++ owner ++ "." ++ name
  | .property owner name => "Property not allowed: " ++ owner ++ "." ++ name

end FormEngine
