/-
  FormEngine/Expression/Parser.lean
  =================================
  **From tokens to expressions.**

  Grammar, loosest binding first:

      expr        → conditional
      conditional → nullish ("?" expr ":" conditional)?
      nullish     → or ("??" or)*
      or          → and ("||" and)*
      and         → equality ("&&" equality)*
      equality    → relational (("==" | "!=" | "===" | "!==") relational)*
      relational  → additive (("<" | ">" | "<=" | ">=") additive)*
      additive    → multiply (("+" | "-") multiply)*
      multiply    → unary (("*" | "/" | "%") unary)*
      unary       → ("!" | "-" | "+") unary | power
      power       → access ("**" unary)?
      access      → (call | primary) ("." IDENT | "[" expr "]")*
      call        → IDENT "." IDENT "(" (expr ("," expr)*)? ")"
      primary     → literal | IDENT | "(" expr ")" | "[" (expr ("," expr)*)? "]"

  Nesting is limited: the whole expression counts one level, and each
  parenthesised expression, index, argument, item, branch, unary operand and
  exponent one more.  The parser is defined by recursion on the number of levels
  that remain (`nested`); within a level it only moves forward over the tokens.
-/
import FormEngine.Expression.Expr
import FormEngine.Expression.Lexer

namespace FormEngine

/-! ### Errors -/

/-- Why a sequence of tokens is no expression. -/
inductive ParseFault where
  | lexical (fault : LexFault)
  | expected (kind : TokenKind) (got : Token)
  | unexpected (got : Token)
  | trailing (got : Token)
  | methodCall (property : String)
  | callOf (callee : Expr)
  | tooDeep
deriving Repr

/-- A fault and the position it is reported at. -/
structure ParseError where
  fault : ParseFault
  position : Nat
deriving Repr

/-- How parsing can fail: by a fault of the text, or on a numeral beyond the digit limit. -/
inductive ParseFailure where
  | rejected (error : ParseError)
  | numeral (error : NumeralError)
deriving Repr

/-- The greatest number of nested levels. -/
def maxNesting : Nat := 32

def ParseFault.message : ParseFault → String
  | .lexical fault => fault.message
  | .expected kind got =>
    "Expected " ++ kind.name ++ ", got " ++ got.kind.name ++ " (" ++ Text.quoted got.text ++ ")"
  | .unexpected got => "Unexpected token: " ++ got.kind.name ++ " (" ++ Text.quoted got.text ++ ")"
  | .trailing got => "Unexpected token after expression: " ++ Text.quoted got.text
  | .methodCall property => "Method calls are not supported: ." ++ property ++ "()"
  | .callOf callee =>
    "Only Namespace.function(...) calls are supported, not " ++ callee.text ++ "(...)"
  | .tooDeep =>
    "Expression is nested too deeply (maximum " ++ maxNesting.repr ++ " levels)"

/-! ### Tokens in front -/

/-- Reads something from the front of the tokens and returns it with the remaining tokens. -/
abbrev TokenReader (α : Type) := List Token → Except ParseFailure (α × List Token)

namespace Parser

/-- The token in front. -/
def current (ts : List Token) : Token := ts.headD (Token.eof 0)

def fail {α : Type} (fault : ParseFault) (position : Nat) : Except ParseFailure α :=
  .error (.rejected ⟨fault, position⟩)

/-- Takes the token in front, which has to be of one kind. -/
def expect (kind : TokenKind) : TokenReader Token := fun ts =>
  if (current ts).kind = kind then .ok (current ts, ts.tail)
  else fail (.expected kind (current ts)) (current ts).position

/-- What is read one level deeper: a whole expression, or an operand. -/
structure Nested where
  expr : TokenReader Expr
  operand : TokenReader Expr

/-- No level is left. -/
def Nested.exhausted : Nested where
  expr ts := fail .tooDeep (current ts).position
  operand ts := fail .tooDeep (current ts).position

/-! ### Operator tables -/

def equalityOp? : TokenKind → Option BinaryOp
  | .eq => some .eq | .ne => some .ne | .strictEq => some .strictEq
  | .strictNe => some .strictNe | _ => none

def relationalOp? : TokenKind → Option BinaryOp
  | .lt => some .lt | .gt => some .gt | .le => some .le | .ge => some .ge | _ => none

def additiveOp? : TokenKind → Option BinaryOp
  | .plus => some .add | .minus => some .sub | _ => none

def multiplyOp? : TokenKind → Option BinaryOp
  | .star => some .mul | .slash => some .div | .percent => some .mod | _ => none

def nullishOp? : TokenKind → Option BinaryOp
  | .nullish => some .nullish | _ => none

def orOp? : TokenKind → Option BinaryOp
  | .or => some .or | _ => none

def andOp? : TokenKind → Option BinaryOp
  | .and => some .and | _ => none

def unaryOp? : TokenKind → Option UnaryOp
  | .not => some .not | .minus => some .neg | .plus => some .pos | _ => none

/-! ### Literals -/

/-- The number of an integer token, in normal form. -/
def integerLiteral (text : String) : Except ParseFailure Literal :=
  match Text.readDecimal text.toList with
  | .ok n => .ok (.number (Number.normalise (.int n)))
  | .error e => .error (.numeral e)

/-- The number of a token with a point or an exponent. -/
def floatLiteral (text : String) : Literal :=
  match DecimalLiteral.ofText? text.toList with
  | some l => .number (.float (l.toBinary64 false))
  | none => .number Number.nan

/-- The literal that a token is, if it is one. -/
def literal? (t : Token) : Option (Except ParseFailure Literal) :=
  match t.kind with
  | .int => some (integerLiteral t.text)
  | .float => some (.ok (floatLiteral t.text))
  | .string => some (.ok (.text t.text))
  | .true => some (.ok (.bool true))
  | .false => some (.ok (.bool false))
  | .null => some (.ok .null)
  | .undefined => some (.ok .null)
  | .nan => some (.ok (.number Number.nan))
  | .infinity => some (.ok (.number (Number.infinity false)))
  | _ => none

/-! ### The levels of the grammar -/

variable (inner : Nested)

/-- One expression or more, with commas between them.  `fuel` bounds their number. -/
def commaSeparated : (fuel : Nat) → TokenReader (List Expr)
  | 0, _ => .ok ([], [])
  | fuel + 1, ts => do
    let (e, rest) ← inner.expr ts
    if (current rest).kind = .comma then do
      let (more, rest) ← commaSeparated fuel rest.tail
      return (e :: more, rest)
    else return ([e], rest)

/-- Any number of expressions with commas between them, up to the closing token. -/
def listUpTo (close : TokenKind) : TokenReader (List Expr) := fun ts => do
  if (current ts).kind = close then
    let (_, rest) ← expect close ts
    return ([], rest)
  else
    let (items, rest) ← commaSeparated inner (ts.length + 1) ts
    let (_, rest) ← expect close rest
    return (items, rest)

/-- A literal, a name, a parenthesised expression or a list. -/
def primary : TokenReader Expr := fun ts =>
  let t := current ts
  match t.kind with
  | .lparen => do
    let (e, rest) ← inner.expr ts.tail
    let (_, rest) ← expect .rparen rest
    return (e, rest)
  | .lbracket => do
    let (items, rest) ← listUpTo inner .rbracket ts.tail
    return (.array items, rest)
  | .ident => .ok (.identifier t.text, ts.tail)
  | _ =>
    match literal? t with
    | some value => do return (.literal (← value), ts.tail)
    | none => fail (.unexpected t) t.position

/-- A call of a function of a namespace, or a primary expression. -/
def callOrPrimary : TokenReader Expr := fun ts =>
  match ts with
  | space :: dot :: name :: paren :: rest =>
    if space.kind = .ident ∧ dot.kind = .dot ∧ name.kind = .ident ∧ paren.kind = .lparen then do
      let (arguments, rest) ← listUpTo inner .rparen rest
      return (.call space.text name.text arguments, rest)
    else primary inner ts
  | ts => primary inner ts

/-- The accesses that follow an expression: properties and elements.  `fuel` bounds their
    number. -/
def accesses : (fuel : Nat) → Expr → TokenReader Expr
  | 0, e, ts => .ok (e, ts)
  | fuel + 1, e, ts =>
    match (current ts).kind with
    | .dot => do
      let (property, rest) ← expect .ident ts.tail
      if (current rest).kind = .lparen then fail (.methodCall property.text) property.position
      else accesses fuel (.member e property.text) rest
    | .lbracket => do
      let (index, rest) ← inner.expr ts.tail
      let (_, rest) ← expect .rbracket rest
      accesses fuel (.index e index) rest
    | .lparen => fail (.callOf e) (current ts).position
    | _ => .ok (e, ts)

def access : TokenReader Expr := fun ts => do
  let (e, rest) ← callOrPrimary inner ts
  accesses inner (rest.length + 1) e rest

def power : TokenReader Expr := fun ts => do
  let (base, rest) ← access inner ts
  if (current rest).kind = .starstar then do
    let (exponent, rest) ← inner.operand rest.tail
    return (.binary .pow base exponent, rest)
  else return (base, rest)

def unary : TokenReader Expr := fun ts =>
  match unaryOp? (current ts).kind with
  | some op => do
    let (operand, rest) ← inner.operand ts.tail
    return (.unary op operand, rest)
  | none => power inner ts

/-- Further operands after the first, each after an operator of the level; they group to the
    left.  `fuel` bounds their number. -/
def operands (op? : TokenKind → Option BinaryOp) (operand : TokenReader Expr) :
    (fuel : Nat) → Expr → TokenReader Expr
  | 0, left, ts => .ok (left, ts)
  | fuel + 1, left, ts =>
    match op? (current ts).kind with
    | none => .ok (left, ts)
    | some op => do
      let (right, rest) ← operand ts.tail
      operands op? operand fuel (.binary op left right) rest

/-- Operands with operators of one level between them. -/
def chain (op? : TokenKind → Option BinaryOp) (operand : TokenReader Expr) :
    TokenReader Expr := fun ts => do
  let (left, rest) ← operand ts
  operands op? operand (rest.length + 1) left rest

def multiply : TokenReader Expr := chain multiplyOp? (unary inner)

def additive : TokenReader Expr := chain additiveOp? (multiply inner)

def relational : TokenReader Expr := chain relationalOp? (additive inner)

def equality : TokenReader Expr := chain equalityOp? (relational inner)

def and : TokenReader Expr := chain andOp? (equality inner)

def or : TokenReader Expr := chain orOp? (and inner)

def nullish : TokenReader Expr := chain nullishOp? (or inner)

def conditional : TokenReader Expr := fun ts => do
  let (condition, rest) ← nullish inner ts
  if (current rest).kind = .question then do
    let (thenBranch, rest) ← inner.expr rest.tail
    let (_, rest) ← expect .colon rest
    let (elseBranch, rest) ← inner.expr rest
    return (.conditional condition thenBranch elseBranch, rest)
  else return (condition, rest)

/-- The readers of the next level when `levels` levels remain. -/
def nested : (levels : Nat) → Nested
  | 0 => Nested.exhausted
  | levels + 1 =>
    { expr := conditional (nested levels)
      operand := unary (nested levels) }

end Parser

/-! ### Whole expressions -/

/-- The expression that a sequence of tokens is. -/
def parseTokens (ts : List Token) : Except ParseFailure Expr := do
  let (e, rest) ← (Parser.nested maxNesting).expr ts
  if (Parser.current rest).kind = .eof then return e
  else Parser.fail (.trailing (Parser.current rest)) (Parser.current rest).position

/-- The expression that a text is. -/
def parseExpr (source : String) : Except ParseFailure Expr :=
  match tokenize source with
  | .error e => Parser.fail (.lexical e.fault) e.position
  | .ok ts => parseTokens ts

end FormEngine
