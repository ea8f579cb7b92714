/-
  FormEngine/Proofs/Expression/Grammar.lean
  =========================================
  **The grammar of expressions**, without a parser.

  `Derives c ts e n` says that the tokens `ts` are a phrase of the category `c` and
  write the tree `e`, and that expressions are nested `n` deep in it.  Each rule is
  one production; the levels of binary operators share one, since they differ in
  their operators and in the category of their operands only.

  An expression is nested one level deeper than the conditional it consists of.  A
  branch after a colon, the operand of a unary operator and an exponent count one
  level as well, although they are no expressions of the grammar; every other phrase
  is nested as deep as the deepest of its parts.  Lists of expressions are phrases
  too, and their tree is the list literal of the elements.
-/
import FormEngine.Expression.Parser
import FormEngine.Number.Literal
import Mathlib.Data.List.Basic

namespace FormEngine

/-- The token writes the literal. -/
inductive Token.Writes (t : Token) : Literal → Prop
  | integer {n : Nat} (isInt : t.kind = .int) (read : Text.readDecimal t.text.toList = .ok n) :
      t.Writes (.number (Number.normalise (.int n)))
  | decimal {l : DecimalLiteral} (isFloat : t.kind = .float)
      (scanned : DecimalLiteral.ofText? t.text.toList = some l) :
      t.Writes (.number (.float (l.toBinary64 false)))
  | text (isString : t.kind = .string) : t.Writes (.text t.text)
  | true (isTrue : t.kind = .true) : t.Writes (.bool true)
  | false (isFalse : t.kind = .false) : t.Writes (.bool false)
  | null (isNull : t.kind = .null) : t.Writes .null
  | undefined (isUndefined : t.kind = .undefined) : t.Writes .null
  | nan (isNaN : t.kind = .nan) : t.Writes (.number Number.nan)
  | infinity (isInfinity : t.kind = .infinity) : t.Writes (.number (Number.infinity false))

namespace Grammar

/-! ### Categories -/

/-- The levels of binary operators that group to the left, loosest binding first. -/
inductive Level where
  | nullish | or | and | equality | relational | additive | multiply
deriving DecidableEq, Repr

/-- The syntactic categories.  `items` is one expression or more with commas between them,
    `list` the same or nothing. -/
inductive Category where
  | expr | conditional | chain (level : Level) | unary | power | access | primary | items | list
deriving DecidableEq, Repr

/-- The operator of a level that a token is. -/
def Level.operator? : Level → TokenKind → Option BinaryOp
  | .nullish, .nullish => some .nullish
  | .or, .or => some .or
  | .and, .and => some .and
  | .equality, .eq => some .eq
  | .equality, .ne => some .ne
  | .equality, .strictEq => some .strictEq
  | .equality, .strictNe => some .strictNe
  | .relational, .lt => some .lt
  | .relational, .gt => some .gt
  | .relational, .le => some .le
  | .relational, .ge => some .ge
  | .additive, .plus => some .add
  | .additive, .minus => some .sub
  | .multiply, .star => some .mul
  | .multiply, .slash => some .div
  | .multiply, .percent => some .mod
  | _, _ => none

/-- What stands between the operators of a level: the next level, or a unary expression. -/
def Level.operand : Level → Category
  | .nullish => .chain .or
  | .or => .chain .and
  | .and => .chain .equality
  | .equality => .chain .relational
  | .relational => .chain .additive
  | .additive => .chain .multiply
  | .multiply => .unary

/-- The unary operator that a token is. -/
def unaryOperator? : TokenKind → Option UnaryOp
  | .not => some .not
  | .minus => some .neg
  | .plus => some .pos
  | _ => none

/-! ### Productions -/

/-- The tokens are a phrase of the category and write the tree, nested as deep as the number
    says. -/
inductive Derives : Category → List Token → Expr → Nat → Prop
  | expr {ts : List Token} {e : Expr} {n : Nat} (body : Derives .conditional ts e n) :
      Derives .expr ts e (n + 1)
  | condition {ts : List Token} {e : Expr} {n : Nat} (body : Derives (.chain .nullish) ts e n) :
      Derives .conditional ts e n
  | conditional {cs ts es : List Token} {question colon : Token} {c t e : Expr} {k m n : Nat}
      (condition : Derives (.chain .nullish) cs c k) (asks : question.kind = .question)
      (thenBranch : Derives .expr ts t m) (parts : colon.kind = .colon)
      (elseBranch : Derives .conditional es e n) :
      Derives .conditional (cs ++ question :: (ts ++ colon :: es)) (.conditional c t e)
        (max k (max m (n + 1)))
  | operand {level : Level} {ts : List Token} {e : Expr} {n : Nat}
      (body : Derives level.operand ts e n) : Derives (.chain level) ts e n
  | binary {level : Level} {ls rs : List Token} {t : Token} {op : BinaryOp} {l r : Expr}
      {m n : Nat} (left : Derives (.chain level) ls l m)
      (operator : level.operator? t.kind = some op) (right : Derives level.operand rs r n) :
      Derives (.chain level) (ls ++ t :: rs) (.binary op l r) (max m n)
  | power {ts : List Token} {e : Expr} {n : Nat} (body : Derives .power ts e n) :
      Derives .unary ts e n
  | unary {ts : List Token} {t : Token} {op : UnaryOp} {e : Expr} {n : Nat}
      (operator : unaryOperator? t.kind = some op) (operand : Derives .unary ts e n) :
      Derives .unary (t :: ts) (.unary op e) (n + 1)
  | base {ts : List Token} {e : Expr} {n : Nat} (body : Derives .access ts e n) :
      Derives .power ts e n
  | pow {bs es : List Token} {t : Token} {b e : Expr} {m n : Nat} (base : Derives .access bs b m)
      (raises : t.kind = .starstar) (exponent : Derives .unary es e n) :
      Derives .power (bs ++ t :: es) (.binary .pow b e) (max m (n + 1))
  | primary {ts : List Token} {e : Expr} {n : Nat} (body : Derives .primary ts e n) :
      Derives .access ts e n
  | call {space dot name paren close : Token} {ts : List Token} {arguments : List Expr} {n : Nat}
      (isSpace : space.kind = .ident) (isDot : dot.kind = .dot) (isName : name.kind = .ident)
      (opens : paren.kind = .lparen) (inside : Derives .list ts (.array arguments) n)
      (closes : close.kind = .rparen) :
      Derives .access (space :: dot :: name :: paren :: (ts ++ [close]))
        (.call space.text name.text arguments) n
  | member {ts : List Token} {dot name : Token} {e : Expr} {n : Nat}
      (target : Derives .access ts e n) (isDot : dot.kind = .dot) (isName : name.kind = .ident) :
      Derives .access (ts ++ [dot, name]) (.member e name.text) n
  | index {ts is : List Token} {bracket close : Token} {e i : Expr} {m n : Nat}
      (target : Derives .access ts e m) (opens : bracket.kind = .lbracket)
      (place : Derives .expr is i n) (closes : close.kind = .rbracket) :
      Derives .access (ts ++ bracket :: (is ++ [close])) (.index e i) (max m n)
  | literal {t : Token} {value : Literal} (writes : t.Writes value) :
      Derives .primary [t] (.literal value) 0
  | identifier {t : Token} (isName : t.kind = .ident) :
      Derives .primary [t] (.identifier t.text) 0
  | parenthesised {paren close : Token} {ts : List Token} {e : Expr} {n : Nat}
      (opens : paren.kind = .lparen) (inside : Derives .expr ts e n)
      (closes : close.kind = .rparen) : Derives .primary (paren :: (ts ++ [close])) e n
  | array {bracket close : Token} {ts : List Token} {es : List Expr} {n : Nat}
      (opens : bracket.kind = .lbracket) (inside : Derives .list ts (.array es) n)
      (closes : close.kind = .rbracket) :
      Derives .primary (bracket :: (ts ++ [close])) (.array es) n
  | item {ts : List Token} {e : Expr} {n : Nat} (only : Derives .expr ts e n) :
      Derives .items ts (.array [e]) n
  | cons {ts us : List Token} {comma : Token} {e : Expr} {es : List Expr} {m n : Nat}
      (first : Derives .expr ts e m) (parts : comma.kind = .comma)
      (others : Derives .items us (.array es) n) :
      Derives .items (ts ++ comma :: us) (.array (e :: es)) (max m n)
  | empty : Derives .list [] (.array []) 0
  | list {ts : List Token} {es : List Expr} {n : Nat} (items : Derives .items ts (.array es) n) :
      Derives .list ts (.array es) n

/-! ### First tokens -/

/-- A token that can open a value. -/
def opensValue : TokenKind → Bool
  | .lparen | .lbracket | .ident | .int | .float | .string | .true | .false | .null
  | .undefined | .nan | .infinity => true
  | _ => false

/-- A phrase opens with a value, or with a unary operator if its category has them. -/
def Begins : Category → List Token → Prop
  | .list, _ => True
  | .power, ts | .access, ts | .primary, ts => ∃ t us, ts = t :: us ∧ opensValue t.kind = true
  | _, ts =>
    ∃ t us, ts = t :: us ∧ (opensValue t.kind = true ∨ (unaryOperator? t.kind).isSome)

theorem opensValue_of_writes {t : Token} {value : Literal} (h : t.Writes value) :
    opensValue t.kind = true := by
  cases h with
  | integer kind _ | decimal kind _ | text kind | true kind | false kind | null kind
  | undefined kind | nan kind | infinity kind =>
    rw [kind]
    rfl

theorem Derives.begins {c : Category} {ts : List Token} {e : Expr} {n : Nat}
    (h : Derives c ts e n) : Begins c ts := by
  induction h with
  | expr _ ih => exact ih
  | condition _ ih => exact ih
  | conditional _ _ _ _ _ ih _ _ =>
    obtain ⟨t, us, rfl, opens⟩ := ih
    exact ⟨t, _, rfl, opens⟩
  | operand _ ih =>
    rename_i level _ _ _ _
    cases level <;> exact ih
  | binary _ _ _ ih _ =>
    obtain ⟨t, us, rfl, opens⟩ := ih
    exact ⟨t, _, rfl, opens⟩
  | power _ ih =>
    obtain ⟨t, us, rfl, opens⟩ := ih
    exact ⟨t, us, rfl, Or.inl opens⟩
  | unary operator _ _ => exact ⟨_, _, rfl, Or.inr (by rw [operator]; rfl)⟩
  | base _ ih => exact ih
  | pow _ _ _ ih _ =>
    obtain ⟨t, us, rfl, opens⟩ := ih
    exact ⟨t, _, rfl, opens⟩
  | primary _ ih => exact ih
  | call isSpace _ _ _ _ _ _ => exact ⟨_, _, rfl, by rw [isSpace]; rfl⟩
  | member _ _ _ ih =>
    obtain ⟨t, us, rfl, opens⟩ := ih
    exact ⟨t, _, rfl, opens⟩
  | index _ _ _ _ ih _ =>
    obtain ⟨t, us, rfl, opens⟩ := ih
    exact ⟨t, _, rfl, opens⟩
  | literal writes => exact ⟨_, _, rfl, opensValue_of_writes writes⟩
  | identifier isName => exact ⟨_, _, rfl, by rw [isName]; rfl⟩
  | parenthesised opens _ _ _ => exact ⟨_, _, rfl, by rw [opens]; rfl⟩
  | array opens _ _ _ => exact ⟨_, _, rfl, by rw [opens]; rfl⟩
  | item _ ih => exact ih
  | cons _ _ _ ih _ =>
    obtain ⟨t, us, rfl, opens⟩ := ih
    exact ⟨t, _, rfl, opens⟩
  | empty => trivial
  | list _ _ => trivial

/-! ### Tokens of phrases -/

/-- The kinds of the tokens that a phrase holds besides literals: names, operators and
    punctuation. -/
def connectives : List TokenKind :=
  [.ident, .question, .colon, .nullish, .or, .and, .eq, .ne, .strictEq, .strictNe, .lt, .gt, .le,
   .ge, .plus, .minus, .star, .slash, .percent, .starstar, .not, .dot, .lparen, .rparen,
   .lbracket, .rbracket, .comma]

/-- The token is a literal or one of the connectives. -/
def IsPart (t : Token) : Prop := (∃ value, t.Writes value) ∨ t.kind ∈ connectives

theorem IsPart.kind_ne {t : Token} {kind : TokenKind} (h : IsPart t)
    (noValue : opensValue kind = false) (other : kind ∉ connectives) : t.kind ≠ kind := by
  rintro rfl
  rcases h with ⟨value, writes⟩ | connective
  · rw [opensValue_of_writes writes] at noValue
    cases noValue
  · exact other connective

theorem isPart_of_kind {t : Token} {kind : TokenKind} (h : t.kind = kind)
    (member : kind ∈ connectives) : IsPart t := by
  rw [← h] at member
  exact Or.inr member

theorem isPart_of_operator? {level : Level} {t : Token} {op : BinaryOp}
    (h : level.operator? t.kind = some op) : IsPart t := by
  refine Or.inr ?_
  generalize t.kind = kind at h
  unfold Level.operator? at h
  split at h <;> first | decide | cases h

theorem isPart_of_unaryOperator? {t : Token} {op : UnaryOp}
    (h : unaryOperator? t.kind = some op) : IsPart t := by
  refine Or.inr ?_
  generalize t.kind = kind at h
  unfold unaryOperator? at h
  split at h <;> first | decide | cases h

/-- A phrase holds literals, names, operators and punctuation only. -/
theorem Derives.isPart {c : Category} {ts : List Token} {e : Expr} {n : Nat}
    (h : Derives c ts e n) : ∀ t ∈ ts, IsPart t := by
  induction h with
  | expr _ ih => exact ih
  | condition _ ih => exact ih
  | conditional _ asks _ parts _ condition thenBranch elseBranch =>
    have question := isPart_of_kind asks (by decide)
    have colon := isPart_of_kind parts (by decide)
    simp only [List.forall_mem_append, List.forall_mem_cons]
    exact ⟨condition, question, thenBranch, colon, elseBranch⟩
  | operand _ ih => exact ih
  | binary _ operator _ left right =>
    simp only [List.forall_mem_append, List.forall_mem_cons]
    exact ⟨left, isPart_of_operator? operator, right⟩
  | power _ ih => exact ih
  | unary operator _ operand =>
    simp only [List.forall_mem_cons]
    exact ⟨isPart_of_unaryOperator? operator, operand⟩
  | base _ ih => exact ih
  | pow _ raises _ base exponent =>
    simp only [List.forall_mem_append, List.forall_mem_cons]
    exact ⟨base, isPart_of_kind raises (by decide), exponent⟩
  | primary _ ih => exact ih
  | call isSpace isDot isName opens _ closes inside =>
    have space := isPart_of_kind isSpace (by decide)
    have dot := isPart_of_kind isDot (by decide)
    have name := isPart_of_kind isName (by decide)
    have paren := isPart_of_kind opens (by decide)
    have close := isPart_of_kind closes (by decide)
    simp only [List.forall_mem_append, List.forall_mem_cons]
    exact ⟨space, dot, name, paren, inside, close, List.forall_mem_nil _⟩
  | member _ isDot isName target =>
    have dot := isPart_of_kind isDot (by decide)
    have name := isPart_of_kind isName (by decide)
    simp only [List.forall_mem_append, List.forall_mem_cons]
    exact ⟨target, dot, name, List.forall_mem_nil _⟩
  | index _ opens _ closes target place =>
    have bracket := isPart_of_kind opens (by decide)
    have close := isPart_of_kind closes (by decide)
    simp only [List.forall_mem_append, List.forall_mem_cons]
    exact ⟨target, bracket, place, close, List.forall_mem_nil _⟩
  | literal writes => exact List.forall_mem_singleton.mpr (Or.inl ⟨_, writes⟩)
  | identifier isName => exact List.forall_mem_singleton.mpr (isPart_of_kind isName (by decide))
  | parenthesised opens _ closes inside =>
    have paren := isPart_of_kind opens (by decide)
    have close := isPart_of_kind closes (by decide)
    simp only [List.forall_mem_append, List.forall_mem_cons]
    exact ⟨paren, inside, close, List.forall_mem_nil _⟩
  | array opens _ closes inside =>
    have bracket := isPart_of_kind opens (by decide)
    have close := isPart_of_kind closes (by decide)
    simp only [List.forall_mem_append, List.forall_mem_cons]
    exact ⟨bracket, inside, close, List.forall_mem_nil _⟩
  | item _ ih => exact ih
  | cons _ parts _ first others =>
    simp only [List.forall_mem_append, List.forall_mem_cons]
    exact ⟨first, isPart_of_kind parts (by decide), others⟩
  | empty => exact List.forall_mem_nil _
  | list _ ih => exact ih

end Grammar

end FormEngine
