/-
  FormEngine/Expression/Expr.lean
  ===============================
  **Expressions** as trees, and their text.

  The node set is closed: there is no node for a statement, a declaration, an
  assignment or a call of anything but a function of a namespace, so none of these
  can be represented, let alone evaluated.

  `Expr.text` writes an expression with parentheses around every binary and every
  conditional node, so that the text needs no precedence to be read.
-/
import FormEngine.Number.Text

namespace FormEngine

/-! ### Operators -/

inductive BinaryOp where
  | add | sub | mul | div | mod | pow
  | eq | ne | strictEq | strictNe | lt | gt | le | ge
  | and | or | nullish
deriving DecidableEq, Repr

inductive UnaryOp where
  | neg | pos | not
deriving DecidableEq, Repr

def BinaryOp.symbol : BinaryOp → String
  | .add => "+" | .sub => "-" | .mul => "*" | .div => "/" | .mod => "%" | .pow => "**"
  | .eq => "==" | .ne => "!=" | .strictEq => "===" | .strictNe => "!=="
  | .lt => "<" | .gt => ">" | .le => "<=" | .ge => ">="
  | .and => "&&" | .or => "||" | .nullish => "??"

def UnaryOp.symbol : UnaryOp → String
  | .neg => "-" | .pos => "+" | .not => "!"

/-! ### Trees -/

/-- A literal value; `undefined` is the null literal. -/
inductive Literal where
  | null
  | bool (b : Bool)
  | number (n : Number)
  | text (s : String)
deriving DecidableEq, Repr

inductive Expr where
  | literal (value : Literal)
  | identifier (name : String)
  /-- Read access `target.property`. -/
  | member (target : Expr) (property : String)
  /-- Read access `target[place]`. -/
  | index (target place : Expr)
  /-- A call `space.name(arguments)` of a function of a namespace. -/
  | call (space name : String) (arguments : List Expr)
  | array (items : List Expr)
  | binary (op : BinaryOp) (left right : Expr)
  | unary (op : UnaryOp) (operand : Expr)
  | conditional (condition thenBranch elseBranch : Expr)
deriving Repr

instance : Inhabited Expr := ⟨.literal .null⟩

/-! ### Text -/

/-- The content of a text literal between double quotes. -/
def escapeLiteral : List Char → List Char
  | [] => []
  | c :: s =>
    if c = '\\' ∨ c = '\x22' then '\\' :: c :: escapeLiteral s else c :: escapeLiteral s

def Literal.render : Literal → String
  | .null => "null"
  | .bool b => if b then "true" else "false"
  | .number (.int n) => Text.decimal n
  | .number (.float .nan) => "NaN"
  | .number (.float (.infinite negative)) => if negative then "-Infinity" else "Infinity"
  | .number (.float x) => x.text
  | .text s => "\x22" ++ String.ofList (escapeLiteral s.toList) ++ "\x22"

mutual

/-- The text of an expression. -/
def Expr.text : Expr → String
  | .literal value => value.render
  | .identifier name => name
  | .member target property => target.text ++ "." ++ property
  | .index target place => target.text ++ "[" ++ place.text ++ "]"
  | .call space name arguments =>
    space ++ "." ++ name ++ "(" ++ Expr.listText arguments ++ ")"
  | .array items => "[" ++ Expr.listText items ++ "]"
  | .binary op left right => "(" ++ left.text ++ " " ++ op.symbol ++ " " ++ right.text ++ ")"
  | .unary op operand => op.symbol ++ operand.text
  | .conditional condition thenBranch elseBranch =>
    "(" ++ condition.text ++ " ? " ++ thenBranch.text ++ " : " ++ elseBranch.text ++ ")"

/-- The texts of several expressions, with a comma and a space between two. -/
def Expr.listText : List Expr → String
  | [] => ""
  | [e] => e.text
  | e :: f :: rest => e.text ++ ", " ++ Expr.listText (f :: rest)

end

end FormEngine
