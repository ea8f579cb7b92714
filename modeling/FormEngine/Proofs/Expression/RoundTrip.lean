/-
  FormEngine/Proofs/Expression/RoundTrip.lean
  ===========================================
  **The text of an expression is read back as the expression.**

  Not every tree comes back: the writer puts no parentheses around the operand of an
  access, and two minus signs in a row are another operator.  `NodePrintable` says
  node by node what is needed, and `parseExpr_text` that it is enough as long as the
  nesting permits.  The nesting is what the text of the tree has: binary and
  conditional nodes are written with parentheses around them, which count.

  The proof goes through the grammar.  In front of a text that ends it, the text of a
  tree is read as tokens that derive the tree (`Recovers`), and the parser reads what
  the grammar derives.
-/
import FormEngine.Proofs.Expression.Occurrence
import FormEngine.Proofs.Expression.Parsing
import FormEngine.Proofs.Expression.Relexing

namespace FormEngine

namespace Expr

/-! ### Printable expressions -/

def isUnary : Expr → Bool
  | .unary _ _ => true
  | _ => false

/-- The literal of an integer. -/
def isInteger : Expr → Bool
  | .literal (.number (.int _)) => true
  | _ => false

/-- What has to hold of a node itself. -/
def NodePrintable : Expr → Prop
  | .literal (.number (.int n)) => 0 ≤ n ∧ n ≤ 9007199254740991
  | .literal (.number (.float x)) => x = .nan ∨ x = .infinite false
  | .literal (.text s) => '\n' ∉ s.toList
  | .literal .null | .literal (.bool _) => True
  | .identifier name => isIdentifier name = true
  | .member target property =>
    isIdentifier property = true ∧ target.isUnary = false ∧ target.isInteger = false
  | .index target _ => target.isUnary = false
  | .call space name _ => isIdentifier space = true ∧ isIdentifier name = true
  | .array _ => True
  | .binary op left _ => op = .pow → left.isUnary = false
  | .unary op operand => op ≠ .not → ∀ x, operand ≠ .unary op x
  | .conditional _ _ _ => True

/-- Every node is printable. -/
def IsPrintable (e : Expr) : Prop := ∀ f, Occurs f e → f.NodePrintable

theorem isPrintable_iff {e : Expr} :
    e.IsPrintable ↔ e.NodePrintable ∧ ∀ c ∈ e.children, c.IsPrintable :=
  forall_occurs_iff

mutual

/-- How deep expressions are nested in the text of the tree. -/
def nesting : Expr → Nat
  | .literal _ | .identifier _ => 0
  | .member target _ => target.nesting
  | .index target place => max target.nesting (place.nesting + 1)
  | .call _ _ arguments => nestings arguments
  | .array items => nestings items
  | .binary op left right =>
    max left.nesting (if op = .pow then right.nesting + 1 else right.nesting) + 1
  | .unary _ operand => operand.nesting + 1
  | .conditional condition thenBranch elseBranch =>
    max condition.nesting (max (thenBranch.nesting + 1) (elseBranch.nesting + 1)) + 1

/-- How deep the elements of a list are nested, each one level deeper. -/
def nestings : List Expr → Nat
  | [] => 0
  | e :: rest => max (e.nesting + 1) (nestings rest)

end

/-! ### Texts as characters -/

theorem toList_render_int (n : Nat) :
    (Literal.number (.int n)).render.toList = Nat.toDigits 10 n :=
  Text.toList_decimal n

theorem toList_text_member (target : Expr) (property : String) :
    (member target property).text.toList = target.text.toList ++ '.' :: property.toList := by
  -- here and below `change` unfolds one step; the equations of the mutual recursion are slow
  change (target.text ++ "." ++ property).toList = _
  simp

theorem toList_text_index (target place : Expr) :
    (index target place).text.toList =
      target.text.toList ++ '[' :: (place.text.toList ++ [']']) := by
  change (target.text ++ "[" ++ place.text ++ "]").toList = _
  simp

theorem toList_text_call (space name : String) (arguments : List Expr) :
    (call space name arguments).text.toList =
      space.toList ++ '.' :: (name.toList ++ '(' :: ((listText arguments).toList ++ [')'])) := by
  change (space ++ "." ++ name ++ "(" ++ listText arguments ++ ")").toList = _
  simp

theorem toList_text_array (items : List Expr) :
    (array items).text.toList = '[' :: ((listText items).toList ++ [']']) := by
  change ("[" ++ listText items ++ "]").toList = _
  simp

theorem toList_text_binary (op : BinaryOp) (left right : Expr) :
    (binary op left right).text.toList =
      '(' :: ((left.text.toList ++ ' ' :: (op.symbol.toList ++ ' ' :: right.text.toList)) ++
        [')']) := by
  change ("(" ++ left.text ++ " " ++ op.symbol ++ " " ++ right.text ++ ")").toList = _
  simp

theorem toList_text_unary (op : UnaryOp) (operand : Expr) :
    (unary op operand).text.toList = op.symbol.toList ++ operand.text.toList := by
  change (op.symbol ++ operand.text).toList = _
  simp

theorem toList_text_conditional (condition thenBranch elseBranch : Expr) :
    (conditional condition thenBranch elseBranch).text.toList =
      '(' :: ((condition.text.toList ++ ' ' :: '?' :: ' ' ::
        (thenBranch.text.toList ++ ' ' :: ':' :: ' ' :: elseBranch.text.toList)) ++ [')']) := by
  change ("(" ++ condition.text ++ " ? " ++ thenBranch.text ++ " : " ++ elseBranch.text ++
    ")").toList = _
  simp

end Expr

namespace Grammar

open Lexer

variable {c d : Category} {text rest : List Char} {e l r : Expr} {es : List Expr} {m n p : Nat}
  {ts : List Token}

/-! ### Categories of written expressions -/

/-- The category of the text of an expression. -/
def phrase (e : Expr) : Category := if e.isUnary then .unary else .access

theorem derives_unary_of_phrase (h : Derives (phrase e) ts e n) : Derives .unary ts e n := by
  unfold phrase at h
  split at h
  · exact h
  · exact .power (.base h)

theorem derives_operand_of_unary (level : Level) (h : Derives .unary ts e n) :
    Derives level.operand ts e n := by
  have multiply : Derives (.chain .multiply) ts e n := .operand h
  have additive : Derives (.chain .additive) ts e n := .operand multiply
  have relational : Derives (.chain .relational) ts e n := .operand additive
  have equality : Derives (.chain .equality) ts e n := .operand relational
  have and : Derives (.chain .and) ts e n := .operand equality
  have or : Derives (.chain .or) ts e n := .operand and
  cases level with
  | nullish => exact or
  | or => exact and
  | and => exact equality
  | equality => exact relational
  | relational => exact additive
  | additive => exact multiply
  | multiply => exact h

theorem derives_expr_of_chain {level : Level} (h : Derives (.chain level) ts e n) :
    Derives .expr ts e (n + 1) := by
  have fromNullish : Derives (.chain .nullish) ts e n → Derives .expr ts e (n + 1) :=
    fun h => .expr (.condition h)
  have fromOr : Derives (.chain .or) ts e n → Derives .expr ts e (n + 1) :=
    fun h => fromNullish (.operand h)
  have fromAnd : Derives (.chain .and) ts e n → Derives .expr ts e (n + 1) :=
    fun h => fromOr (.operand h)
  have fromEquality : Derives (.chain .equality) ts e n → Derives .expr ts e (n + 1) :=
    fun h => fromAnd (.operand h)
  have fromRelational : Derives (.chain .relational) ts e n → Derives .expr ts e (n + 1) :=
    fun h => fromEquality (.operand h)
  have fromAdditive : Derives (.chain .additive) ts e n → Derives .expr ts e (n + 1) :=
    fun h => fromRelational (.operand h)
  cases level with
  | nullish => exact fromNullish h
  | or => exact fromOr h
  | and => exact fromAnd h
  | equality => exact fromEquality h
  | relational => exact fromRelational h
  | additive => exact fromAdditive h
  | multiply => exact fromAdditive (.operand h)

theorem derives_chain_of_phrase (level : Level) (h : Derives (phrase e) ts e n) :
    Derives (.chain level) ts e n :=
  .operand (derives_operand_of_unary level (derives_unary_of_phrase h))

theorem derives_expr_of_phrase (h : Derives (phrase e) ts e n) : Derives .expr ts e (n + 1) :=
  derives_expr_of_chain (derives_chain_of_phrase .nullish h)

theorem derives_expr_of_power (h : Derives .power ts e n) : Derives .expr ts e (n + 1) :=
  derives_expr_of_chain (.operand (derives_operand_of_unary .nullish (.power h)))

/-! ### Texts that are read as a phrase -/

/-- Standing anywhere before the text and the rest, the lexer takes tokens up to the rest that
    derive the tree. -/
def Recovers (c : Category) (text rest : List Char) (e : Expr) (n : Nat) : Prop :=
  ∀ p, ∃ ts q, Reads (text ++ rest) p ts rest q ∧ Derives c ts e n

theorem Recovers.lift (h : Recovers c text rest l n)
    (lift : ∀ ts, Derives c ts l n → Derives d ts r m) : Recovers d text rest r m := by
  intro p
  obtain ⟨ts, q, read, phrase⟩ := h p
  exact ⟨ts, q, read, lift ts phrase⟩

theorem recovers_word (word : String) {value : Literal} {k : Char} {s : List Char}
    (split : word.toList = k :: s) (starts : isWordStart k = true)
    (parts : s.all isWordPart = true) (ends : EndsWord rest)
    (writes : ∀ t : Token, t.kind = TokenKind.ofWord word → t.Writes value) :
    Recovers .access word.toList rest (.literal value) 0 := by
  intro p
  obtain ⟨q, read⟩ := reads_word split starts parts ends (p := p)
  exact ⟨_, q, read, .primary (.literal (writes _ rfl))⟩

theorem recovers_integer {n : Nat} (safe : n ≤ Number.maxSafeInteger) (ends : EndsNumber rest) :
    Recovers .access (Nat.toDigits 10 n) rest (.literal (.number (.int n))) 0 := by
  intro p
  have digits : ∀ c ∈ Nat.toDigits 10 n, c.isDigit = true :=
    fun c member => Nat.isDigit_of_mem_toDigits (by decide) (by decide) member
  obtain ⟨q, read⟩ := reads_digits (p := p) digits Nat.toDigits_ne_nil ends
  have short : n < 10 ^ digitLimit := by
    have sixteen : Number.maxSafeInteger < 10 ^ 16 := by decide
    have longer : 10 ^ 16 ≤ 10 ^ digitLimit := Nat.pow_le_pow_right (by decide) (by decide)
    omega
  have value : Number.normalise (.int n) = .int n := Number.normalise_int_of_le safe
  have writes : Token.Writes ⟨.int, String.ofList (Nat.toDigits 10 n), p⟩
      (.number (Number.normalise (.int n))) := by
    refine .integer rfl ?_
    rw [String.toList_ofList]
    exact Text.readDecimal_toDigits short
  rw [value] at writes
  exact ⟨_, q, read, .primary (.literal writes)⟩

theorem recovers_text {s : String} (oneLine : '\n' ∉ s.toList) :
    Recovers .access (Literal.text s).render.toList rest (.literal (.text s)) 0 := by
  intro p
  obtain ⟨q, read⟩ := reads_quoted oneLine rest p
  have split : (Literal.text s).render.toList ++ rest =
      '\x22' :: (escapeLiteral s.toList ++ '\x22' :: rest) := by
    simp [Literal.render]
  rw [split]
  exact ⟨_, q, read, .primary (.literal (.text rfl))⟩

theorem recovers_identifier {name : String} (isName : isIdentifier name = true)
    (ends : EndsWord rest) : Recovers .access name.toList rest (.identifier name) 0 := by
  intro p
  obtain ⟨q, read⟩ := reads_identifier isName ends (p := p)
  exact ⟨_, q, read, .primary (.identifier rfl)⟩

/-! ### Accesses -/

/-- A point and a name. -/
theorem reads_property {property : String} (isName : isIdentifier property = true)
    (ends : EndsWord rest) :
    ∃ dot q q', dot.kind = .dot ∧
      Reads ('.' :: (property.toList ++ rest)) p [dot, ⟨.ident, property, q⟩] rest q' := by
  obtain ⟨c, s, split, starts, _, _⟩ := exists_cons_of_isIdentifier isName
  obtain ⟨dot, q, isDot, read⟩ := takes_point (s := s ++ rest) starts p
  rw [← List.cons_append, ← split] at read
  obtain ⟨q', name⟩ := reads_identifier isName ends (p := q)
  exact ⟨dot, q, q', isDot, read.trans name⟩

theorem recovers_member {property : String} (isName : isIdentifier property = true)
    (ends : EndsWord rest) (target : Recovers .access text ('.' :: (property.toList ++ rest)) e n) :
    Recovers .access (text ++ '.' :: property.toList) rest (.member e property) n := by
  intro p
  obtain ⟨ts, q, read, phrase⟩ := target p
  obtain ⟨dot, _, q', isDot, access⟩ := reads_property isName ends (p := q)
  rw [List.append_assoc]
  exact ⟨_, q', read.trans access, .member phrase isDot rfl⟩

theorem roundBrackets :
    ('(', TokenKind.lparen) ∈ punctuation ∧ (')', TokenKind.rparen) ∈ punctuation := by
  decide

theorem squareBrackets :
    ('[', TokenKind.lbracket) ∈ punctuation ∧ (']', TokenKind.rbracket) ∈ punctuation := by
  decide

/-- Something between an opening and a closing bracket. -/
theorem reads_enclosed {first last : Char} {opening closing : TokenKind}
    (brackets : (first, opening) ∈ punctuation ∧ (last, closing) ∈ punctuation)
    (inside : Recovers c text (last :: rest) e n) (p : Nat) :
    ∃ t u ts q, t.kind = opening ∧ u.kind = closing ∧ Derives c ts e n ∧
      Reads (first :: (text ++ last :: rest)) p (t :: (ts ++ [u])) rest q := by
  obtain ⟨t, q, isOpening, read⟩ := takes_punctuation brackets.1 p
  obtain ⟨ts, q', read', phrase⟩ := inside q
  obtain ⟨u, q'', isClosing, read''⟩ := takes_punctuation brackets.2 q'
  exact ⟨t, u, ts, q'', isOpening, isClosing, phrase, read.trans (read'.trans read'')⟩

theorem recovers_index {inner : List Char}
    (target : Recovers .access text ('[' :: (inner ++ ']' :: rest)) l m)
    (place : Recovers .expr inner (']' :: rest) r n) :
    Recovers .access (text ++ '[' :: (inner ++ [']'])) rest (.index l r) (max m n) := by
  intro p
  obtain ⟨ts, q, read, phrase⟩ := target p
  obtain ⟨_, _, _, q', opens, closes, phrase', read'⟩ := reads_enclosed squareBrackets place q
  have split : (text ++ '[' :: (inner ++ [']'])) ++ rest =
      text ++ '[' :: (inner ++ ']' :: rest) := by
    simp
  rw [split]
  exact ⟨_, q', read.trans read', .index phrase opens phrase' closes⟩

theorem recovers_call {space name : String} (isSpace : isIdentifier space = true)
    (isName : isIdentifier name = true) (inside : Recovers .list text (')' :: rest) (.array es) n) :
    Recovers .access (space.toList ++ '.' :: (name.toList ++ '(' :: (text ++ [')']))) rest
      (.call space name es) n := by
  intro p
  have endsAtPoint : EndsWord ('.' :: (name.toList ++ '(' :: (text ++ ')' :: rest))) :=
    endsWord_cons rfl
  have endsAtParen : EndsWord ('(' :: (text ++ ')' :: rest)) := endsWord_cons rfl
  obtain ⟨q, read⟩ := reads_identifier isSpace endsAtPoint (p := p)
  obtain ⟨_, _, q', isDot, access⟩ := reads_property isName endsAtParen (p := q)
  obtain ⟨_, _, _, q'', opens, closes, phrase, read'⟩ := reads_enclosed roundBrackets inside q'
  have split : (space.toList ++ '.' :: (name.toList ++ '(' :: (text ++ [')']))) ++ rest =
      space.toList ++ '.' :: (name.toList ++ '(' :: (text ++ ')' :: rest)) := by
    simp
  rw [split]
  exact ⟨_, q'', read.trans (access.trans read'), .call rfl isDot rfl opens phrase closes⟩

theorem recovers_array (inside : Recovers .list text (']' :: rest) (.array es) n) :
    Recovers .access ('[' :: (text ++ [']'])) rest (.array es) n := by
  intro p
  obtain ⟨_, _, _, q, opens, closes, phrase, read⟩ := reads_enclosed squareBrackets inside p
  have split : ('[' :: (text ++ [']'])) ++ rest = '[' :: (text ++ ']' :: rest) := by
    simp
  rw [split]
  exact ⟨_, q, read, .primary (.array opens phrase closes)⟩

theorem recovers_parenthesised (inside : Recovers .expr text (')' :: rest) e n) :
    Recovers .access ('(' :: (text ++ [')'])) rest e n := by
  intro p
  obtain ⟨_, _, _, q, opens, closes, phrase, read⟩ := reads_enclosed roundBrackets inside p
  have split : ('(' :: (text ++ [')'])) ++ rest = '(' :: (text ++ ')' :: rest) := by
    simp
  rw [split]
  exact ⟨_, q, read, .primary (.parenthesised opens phrase closes)⟩

/-! ### Operators -/

/-- A token with blanks around it. -/
theorem reads_spaced {kind : TokenKind} {symbol : List Char}
    (takes : Takes kind (symbol ++ ' ' :: text) (' ' :: text)) (p : Nat) :
    ∃ t q, t.kind = kind ∧ Reads (' ' :: (symbol ++ ' ' :: text)) p [t] text q := by
  obtain ⟨t, q, isKind, read⟩ := takes (p + 1)
  exact ⟨t, q + 1, isKind, (reads_blank rfl).trans (read.trans (reads_blank rfl))⟩

/-- Two operands with a binary operator between them. -/
theorem reads_binary {op : BinaryOp} {left right : List Char}
    (first : Recovers c left (' ' :: (op.symbol.toList ++ ' ' :: (right ++ rest))) l m)
    (second : Recovers d right rest r n) (p : Nat) :
    ∃ ls t rs q, t.kind = kindOf op ∧ Derives c ls l m ∧ Derives d rs r n ∧
      Reads ((left ++ ' ' :: (op.symbol.toList ++ ' ' :: right)) ++ rest) p (ls ++ t :: rs)
        rest q := by
  obtain ⟨ls, q, read, phrase⟩ := first p
  obtain ⟨t, q', isSymbol, symbol⟩ := reads_spaced (takes_symbol op) q
  obtain ⟨rs, q'', read', phrase'⟩ := second q'
  have split : (left ++ ' ' :: (op.symbol.toList ++ ' ' :: right)) ++ rest =
      left ++ ' ' :: (op.symbol.toList ++ ' ' :: (right ++ rest)) := by
    simp
  rw [split]
  exact ⟨ls, t, rs, q'', isSymbol, phrase, phrase', read.trans (symbol.trans read')⟩

theorem recovers_binary {level : Level} {op : BinaryOp} {left right : List Char}
    (operator : level.operator? (kindOf op) = some op)
    (first : Recovers (.chain level) left (' ' :: (op.symbol.toList ++ ' ' :: (right ++ rest))) l m)
    (second : Recovers level.operand right rest r n) :
    Recovers (.chain level) (left ++ ' ' :: (op.symbol.toList ++ ' ' :: right)) rest
      (.binary op l r) (max m n) := by
  intro p
  obtain ⟨_, t, _, q, isSymbol, phrase, phrase', read⟩ := reads_binary first second p
  rw [← isSymbol] at operator
  exact ⟨_, q, read, .binary phrase operator phrase'⟩

theorem recovers_pow {left right : List Char}
    (base : Recovers .access left
      (' ' :: (BinaryOp.pow.symbol.toList ++ ' ' :: (right ++ rest))) l m)
    (exponent : Recovers .unary right rest r n) :
    Recovers .power (left ++ ' ' :: (BinaryOp.pow.symbol.toList ++ ' ' :: right)) rest
      (.binary .pow l r) (max m (n + 1)) := by
  intro p
  obtain ⟨_, t, _, q, isSymbol, phrase, phrase', read⟩ := reads_binary base exponent p
  exact ⟨_, q, read, .pow phrase isSymbol phrase'⟩

theorem recovers_conditional {cs as bs : List Char} {c a b : Expr} {k : Nat}
    (condition : Recovers (.chain .nullish) cs
      (' ' :: (['?'] ++ ' ' :: (as ++ ' ' :: ([':'] ++ ' ' :: (bs ++ rest))))) c k)
    (thenBranch : Recovers .expr as (' ' :: ([':'] ++ ' ' :: (bs ++ rest))) a m)
    (elseBranch : Recovers .conditional bs rest b n) :
    Recovers .conditional (cs ++ ' ' :: '?' :: ' ' :: (as ++ ' ' :: ':' :: ' ' :: bs)) rest
      (.conditional c a b) (max k (max m (n + 1))) := by
  intro p
  obtain ⟨_, q, read, phrase⟩ := condition p
  have takesQuestion : Takes .question
      (['?'] ++ ' ' :: (as ++ ' ' :: ([':'] ++ ' ' :: (bs ++ rest))))
      (' ' :: (as ++ ' ' :: ([':'] ++ ' ' :: (bs ++ rest)))) := takes_question
  have takesColon : Takes .colon ([':'] ++ ' ' :: (bs ++ rest)) (' ' :: (bs ++ rest)) :=
    takes_punctuation (by decide)
  obtain ⟨_, q₁, asks, question⟩ := reads_spaced takesQuestion q
  obtain ⟨_, q₂, read', phrase'⟩ := thenBranch q₁
  obtain ⟨_, q₃, parts, colon⟩ := reads_spaced takesColon q₂
  obtain ⟨_, q₄, read'', phrase''⟩ := elseBranch q₃
  have split : (cs ++ ' ' :: '?' :: ' ' :: (as ++ ' ' :: ':' :: ' ' :: bs)) ++ rest =
      cs ++ ' ' :: (['?'] ++ ' ' :: (as ++ ' ' :: ([':'] ++ ' ' :: (bs ++ rest)))) := by
    simp
  rw [split]
  exact ⟨_, q₄, read.trans (question.trans (read'.trans (colon.trans read''))),
    .conditional phrase asks phrase' parts phrase''⟩

theorem recovers_unary {op : UnaryOp} {k : Char} {s : List Char} (notAssign : k ≠ '=')
    (notMinus : op = .neg → k ≠ '-') (notPlus : op = .pos → k ≠ '+')
    (operand : Recovers .unary (k :: s) rest e n) :
    Recovers .unary (op.symbol.toList ++ k :: s) rest (.unary op e) (n + 1) := by
  intro p
  obtain ⟨kind, operator, takes⟩ := takes_unarySymbol (s := s ++ rest) notAssign notMinus notPlus
  obtain ⟨t, q, isKind, read⟩ := takes p
  obtain ⟨ts, q', read', phrase⟩ := operand q
  rw [List.append_assoc]
  rw [← isKind] at operator
  exact ⟨_, q', read.trans read', .unary operator phrase⟩

/-! ### What stands behind an expression -/

/-- The characters that may stand behind the text of an expression, other than a point. -/
def separators : List Char := [' ', ')', ']', '[', ',']

/-- The rest begins with a separator, or with a point that makes no fraction of an integer. -/
def Separates (e : Expr) (rest : List Char) : Prop :=
  ∀ c s, rest = c :: s → c ∈ separators ∨ (c = '.' ∧ e.isUnary = false ∧ e.isInteger = false)

theorem separates_cons {c : Char} (member : c ∈ separators) (s : List Char) :
    Separates e (c :: s) := by
  intro d s same
  cases same
  exact Or.inl member

theorem separates_point (notUnary : e.isUnary = false) (notInteger : e.isInteger = false)
    (s : List Char) : Separates e ('.' :: s) := by
  intro d s same
  cases same
  exact Or.inr ⟨rfl, notUnary, notInteger⟩

theorem separates_nil : Separates e [] := by
  intro d s same
  cases same

theorem Separates.endsWord (h : Separates e rest) : EndsWord rest := by
  intro c s same
  have plain : separators.all (fun c => !isWordPart c) = true := by decide
  rcases h c s same with member | ⟨rfl, _⟩
  · simpa using List.all_eq_true.mp plain c member
  · rfl

theorem Separates.endsNumber (h : Separates e rest) (isInteger : e.isInteger = true) :
    EndsNumber rest := by
  have plain : separators.all (fun c => !Text.isDecimalDigit c && c != '.' && c != 'e' &&
      c != 'E' && !blocksNumber c) = true := by
    decide +kernel
  have isSeparator : ∀ c s, rest = c :: s → c ∈ separators := by
    intro c s same
    rcases h c s same with member | ⟨_, _, notInteger⟩
    · exact member
    · rw [isInteger] at notInteger
      cases notInteger
  constructor
  · intro c s same
    have facts := List.all_eq_true.mp plain c (isSeparator c s same)
    simp only [Bool.and_eq_true, Bool.not_eq_true', bne_iff_ne] at facts
    obtain ⟨⟨⟨⟨noDigit, noPoint⟩, noSmall⟩, noCapital⟩, _⟩ := facts
    exact ⟨noDigit, noPoint, noSmall, noCapital⟩
  · intro c s same
    have facts := List.all_eq_true.mp plain c (isSeparator c s same)
    simp only [Bool.and_eq_true, Bool.not_eq_true'] at facts
    exact facts.2

/-! ### Lists -/

theorem recovers_cons {others : List Char}
    (first : Recovers .expr text (',' :: ' ' :: (others ++ rest)) e m)
    (later : Recovers .items others rest (.array es) n) :
    Recovers .items (text ++ ',' :: ' ' :: others) rest (.array (e :: es)) (max m n) := by
  intro p
  have takesComma : ∀ s, Takes .comma (',' :: s) s := fun s => takes_punctuation (by decide)
  obtain ⟨ts, q, read, phrase⟩ := first p
  obtain ⟨_, q', parts, read'⟩ := takesComma _ q
  obtain ⟨us, q'', read'', phrase'⟩ := later (q' + 1)
  have split : (text ++ ',' :: ' ' :: others) ++ rest =
      text ++ ',' :: ' ' :: (others ++ rest) := by
    simp
  rw [split]
  exact ⟨_, q'', read.trans (read'.trans ((reads_blank rfl).trans read'')),
    .cons phrase parts phrase'⟩

theorem toList_listText_cons (e f : Expr) (es : List Expr) :
    (Expr.listText (e :: f :: es)).toList =
      e.text.toList ++ ',' :: ' ' :: (Expr.listText (f :: es)).toList := by
  simp [Expr.listText]

/-- Elements that are read in front of what separates them are read as a list. -/
theorem recovers_items
    (items : ∀ f ∈ e :: es, ∀ s, Separates f s → Recovers .expr f.text.toList s f (f.nesting + 1))
    (behind : ∀ f, Separates f rest) :
    Recovers .items (Expr.listText (e :: es)).toList rest (.array (e :: es))
      (Expr.nestings (e :: es)) := by
  induction es generalizing e with
  | nil => exact (items e List.mem_cons_self rest (behind e)).lift (fun _ => .item)
  | cons f es ih =>
    have first := fun s => items e List.mem_cons_self _ (separates_cons (c := ',') (by decide) s)
    have others := ih (fun g member => items g (List.mem_cons_of_mem e member))
    rw [toList_listText_cons]
    exact recovers_cons (first _) others

theorem recovers_list
    (items : ∀ f ∈ es, ∀ s, Separates f s → Recovers .expr f.text.toList s f (f.nesting + 1))
    (behind : ∀ f, Separates f rest) :
    Recovers .list (Expr.listText es).toList rest (.array es) (Expr.nestings es) := by
  cases es with
  | nil =>
    intro p
    have split : (Expr.listText []).toList ++ rest = rest := by
      simp [Expr.listText]
    rw [split]
    exact ⟨[], p, reads_nil, .empty⟩
  | cons e es => exact (recovers_items items behind).lift (fun _ => .list)

/-! ### Whole expressions -/

theorem recovers_literal {value : Literal} (printable : (Expr.literal value).NodePrintable)
    (separates : Separates (.literal value) rest) :
    Recovers .access value.render.toList rest (.literal value) 0 := by
  have ends := separates.endsWord
  cases value with
  | null => exact recovers_word "null" rfl rfl rfl ends (fun t kind => .null kind)
  | bool b =>
    cases b with
    | true => exact recovers_word "true" rfl rfl rfl ends (fun t kind => .true kind)
    | false => exact recovers_word "false" rfl rfl rfl ends (fun t kind => .false kind)
  | number x =>
    cases x with
    | int n =>
      obtain ⟨notNegative, safe⟩ := printable
      obtain ⟨k, rfl⟩ := Int.eq_ofNat_of_zero_le notNegative
      rw [Expr.toList_render_int]
      have within : k ≤ Number.maxSafeInteger := by
        unfold Number.maxSafeInteger
        omega
      exact recovers_integer within (separates.endsNumber rfl)
    | float x =>
      rcases printable with rfl | rfl
      · exact recovers_word "NaN" rfl rfl rfl ends (fun t kind => .nan kind)
      · exact recovers_word "Infinity" rfl rfl rfl ends (fun t kind => .infinity kind)
  | text s => exact recovers_text printable

/-! ### First characters -/

/-- The signs that can make a longer operator of a sign before them. -/
def signs : List Char := ['=', '-', '+']

theorem exists_cons_of_name {name : String} (isName : isIdentifier name = true) :
    ∃ c s, name.toList = c :: s ∧ c ∉ signs := by
  obtain ⟨c, s, split, starts, _, _⟩ := exists_cons_of_isIdentifier isName
  refine ⟨c, s, split, ?_⟩
  intro member
  have noStart : signs.all (fun c => !isWordStart c) = true := by decide
  have stops := List.all_eq_true.mp noStart c member
  rw [starts] at stops
  cases stops

theorem not_mem_signs_of_isDigit {k : Char} (digit : k.isDigit = true) : k ∉ signs := by
  intro member
  have noDigit : signs.all (fun c => !c.isDigit) = true := by decide
  have stops := List.all_eq_true.mp noDigit k member
  rw [digit] at stops
  cases stops

theorem exists_cons_of_literal {value : Literal} (printable : (Expr.literal value).NodePrintable) :
    ∃ c s, value.render.toList = c :: s ∧ c ∉ signs := by
  cases value with
  | null => exact ⟨'n', _, rfl, by decide⟩
  | bool b =>
    cases b with
    | true => exact ⟨'t', _, rfl, by decide⟩
    | false => exact ⟨'f', _, rfl, by decide⟩
  | text s =>
    refine ⟨'\x22', escapeLiteral s.toList ++ ['\x22'], ?_, by decide⟩
    simp [Literal.render]
  | number x =>
    cases x with
    | int n =>
      obtain ⟨k, rfl⟩ := Int.eq_ofNat_of_zero_le printable.1
      rw [Expr.toList_render_int]
      cases split : Nat.toDigits 10 k with
      | nil => exact absurd split Nat.toDigits_ne_nil
      | cons c s =>
        have member : c ∈ Nat.toDigits 10 k := by
          rw [split]
          exact List.mem_cons_self
        have digit : c.isDigit = true :=
          Nat.isDigit_of_mem_toDigits (by decide) (by decide) member
        exact ⟨c, s, rfl, not_mem_signs_of_isDigit digit⟩
    | float x =>
      rcases printable with rfl | rfl
      · exact ⟨'N', _, rfl, by decide⟩
      · exact ⟨'I', _, rfl, by decide⟩

/-- The text of a printable expression other than an operator begins with none of the signs. -/
theorem exists_plain_cons {e : Expr} (printable : e.IsPrintable) (notUnary : e.isUnary = false) :
    ∃ c s, e.text.toList = c :: s ∧ c ∉ signs := by
  induction e using Expr.induction_children with
  | step e ih =>
    obtain ⟨node, inside⟩ := Expr.isPrintable_iff.mp printable
    cases e with
    | literal value => exact exists_cons_of_literal node
    | identifier name => exact exists_cons_of_name node
    | member target property =>
      have child : target ∈ (Expr.member target property).children := List.mem_cons_self
      obtain ⟨c, s, split, plain⟩ := ih target child (inside target child) node.2.1
      rw [Expr.toList_text_member, split]
      exact ⟨c, _, rfl, plain⟩
    | index target place =>
      have child : target ∈ (Expr.index target place).children := List.mem_cons_self
      obtain ⟨c, s, split, plain⟩ := ih target child (inside target child) node
      rw [Expr.toList_text_index, split]
      exact ⟨c, _, rfl, plain⟩
    | call space name arguments =>
      obtain ⟨c, s, split, plain⟩ := exists_cons_of_name node.1
      rw [Expr.toList_text_call, split]
      exact ⟨c, _, rfl, plain⟩
    | array items =>
      rw [Expr.toList_text_array]
      exact ⟨'[', _, rfl, by decide⟩
    | binary op left right =>
      rw [Expr.toList_text_binary]
      exact ⟨'(', _, rfl, by decide⟩
    | conditional condition thenBranch elseBranch =>
      rw [Expr.toList_text_conditional]
      exact ⟨'(', _, rfl, by decide⟩
    | unary op operand => cases notUnary

/-- The text of a printable operand does not begin with a sign that makes another operator of
    the sign before it. -/
theorem exists_operand_cons {op : UnaryOp} {e : Expr} (printable : (Expr.unary op e).IsPrintable) :
    ∃ c s, e.text.toList = c :: s ∧ c ≠ '=' ∧ (op = .neg → c ≠ '-') ∧ (op = .pos → c ≠ '+') := by
  obtain ⟨node, inside⟩ := Expr.isPrintable_iff.mp printable
  have printable' := inside e (List.mem_singleton_self e)
  cases isUnary : e.isUnary with
  | false =>
    obtain ⟨c, s, split, plain⟩ := exists_plain_cons printable' isUnary
    simp only [signs, List.mem_cons, List.not_mem_nil, or_false, not_or] at plain
    exact ⟨c, s, split, plain.1, fun _ => plain.2.1, fun _ => plain.2.2⟩
  | true =>
    cases e with
    | unary op' x =>
      have signs : op'.symbol.toList = ['-'] ∧ op' = .neg ∨ op'.symbol.toList = ['+'] ∧ op' = .pos ∨
          op'.symbol.toList = ['!'] ∧ op' = .not := by
        cases op' <;> decide
      rw [Expr.toList_text_unary]
      rcases signs with ⟨sign, rfl⟩ | ⟨sign, rfl⟩ | ⟨sign, rfl⟩
      · refine ⟨'-', x.text.toList, by rw [sign]; rfl, by decide, ?_, fun _ => by decide⟩
        rintro rfl
        exact absurd rfl (node (by decide) x)
      · refine ⟨'+', x.text.toList, by rw [sign]; rfl, by decide, fun _ => by decide, ?_⟩
        rintro rfl
        exact absurd rfl (node (by decide) x)
      · exact ⟨'!', x.text.toList, by rw [sign]; rfl, by decide, fun _ => by decide,
          fun _ => by decide⟩
    | _ => cases isUnary

/-- In front of what separates it from the rest, the text of a printable expression is read as
    tokens that derive the expression. -/
theorem recovers_text_of_isPrintable (printable : e.IsPrintable) (separates : Separates e rest) :
    Recovers (phrase e) e.text.toList rest e e.nesting := by
  induction e using Expr.induction_children generalizing rest with
  | step e ih =>
    obtain ⟨node, inside⟩ := Expr.isPrintable_iff.mp printable
    have child : ∀ c ∈ e.children, ∀ s, Separates c s →
        Recovers (phrase c) c.text.toList s c c.nesting :=
      fun c member s separates => ih c member (inside c member) separates
    have childExpr : ∀ c ∈ e.children, ∀ s, Separates c s →
        Recovers .expr c.text.toList s c (c.nesting + 1) :=
      fun c member s separates => (child c member s separates).lift
        (fun _ => derives_expr_of_phrase)
    cases e with
    | literal value => exact recovers_literal node separates
    | identifier name => exact recovers_identifier node separates.endsWord
    | member target property =>
      -- behind an integer the point would go on with the number
      obtain ⟨isName, notUnary, notInteger⟩ := node
      have before := fun s =>
        child target List.mem_cons_self _ (separates_point notUnary notInteger s)
      rw [phrase, notUnary] at before
      rw [Expr.toList_text_member]
      exact recovers_member isName separates.endsWord (before _)
    | index target place =>
      have second : place ∈ (Expr.index target place).children := by simp [Expr.children]
      have before := fun s =>
        child target List.mem_cons_self ('[' :: s) (separates_cons (by decide) s)
      have between := childExpr place second (']' :: rest) (separates_cons (by decide) rest)
      rw [phrase, node] at before
      rw [Expr.toList_text_index]
      exact recovers_index (before _) between
    | call space name arguments =>
      have items := recovers_list childExpr (fun f => separates_cons (c := ')') (by decide) rest)
      rw [Expr.toList_text_call]
      exact recovers_call node.1 node.2 items
    | array items =>
      have items := recovers_list childExpr (fun f => separates_cons (c := ']') (by decide) rest)
      rw [Expr.toList_text_array]
      exact recovers_array items
    | binary op left right =>
      have second : right ∈ (Expr.binary op left right).children := by simp [Expr.children]
      have before := fun s =>
        child left List.mem_cons_self (' ' :: s) (separates_cons (by decide) s)
      have behind := (child right second (')' :: rest) (separates_cons (by decide) rest)).lift
        (fun _ => derives_unary_of_phrase)
      rw [Expr.toList_text_binary, Expr.nesting]
      refine recovers_parenthesised ?_
      -- a power takes an access on its left; the other levels take what a unary phrase is
      by_cases isPow : op = .pow
      · subst isPow
        rw [phrase, node rfl] at before
        rw [if_pos rfl]
        exact (recovers_pow (before _) behind).lift (fun _ => derives_expr_of_power)
      · obtain ⟨level, operator⟩ := exists_level isPow
        have first := fun s => (before s).lift (fun _ => derives_chain_of_phrase level)
        have last := behind.lift (fun _ => derives_operand_of_unary level)
        rw [if_neg isPow]
        exact (recovers_binary operator (first _) last).lift (fun _ => derives_expr_of_chain)
    | conditional condition thenBranch elseBranch =>
      have second : thenBranch ∈ (Expr.conditional condition thenBranch elseBranch).children := by
        simp [Expr.children]
      have third : elseBranch ∈ (Expr.conditional condition thenBranch elseBranch).children := by
        simp [Expr.children]
      have asked := fun s => (child condition List.mem_cons_self (' ' :: s)
        (separates_cons (by decide) s)).lift (fun _ => derives_chain_of_phrase .nullish)
      have chosen := fun s => childExpr thenBranch second (' ' :: s) (separates_cons (by decide) s)
      have otherwise :=
        (child elseBranch third (')' :: rest) (separates_cons (by decide) rest)).lift
          (fun _ h => .condition (derives_chain_of_phrase .nullish h))
      rw [Expr.toList_text_conditional, Expr.nesting]
      refine recovers_parenthesised ?_
      exact (recovers_conditional (asked _) (chosen _) otherwise).lift (fun _ => .expr)
    | unary op operand =>
      obtain ⟨c, s, split, notAssign, notMinus, notPlus⟩ := exists_operand_cons printable
      have operandSeparates : Separates operand rest := by
        intro c s same
        rcases separates c s same with member | ⟨_, notUnary, _⟩
        · exact Or.inl member
        · cases notUnary
      have inner := (child operand List.mem_cons_self rest operandSeparates).lift
        (fun _ => derives_unary_of_phrase)
      rw [split] at inner
      rw [Expr.toList_text_unary, split]
      exact recovers_unary notAssign notMinus notPlus inner

end Grammar

/-- **The text of a printable expression is read back as the expression**, unless its nesting
    exceeds the limit: then the parser complains of the nesting. -/
theorem parseExpr_text {e : Expr} (printable : e.IsPrintable) :
    (e.nesting ≤ 31 → parseExpr e.text = .ok e) ∧
      (32 ≤ e.nesting → ∃ position, parseExpr e.text = .error (.rejected ⟨.tooDeep, position⟩)) := by
  obtain ⟨ts, last, read, phrase⟩ :=
    Grammar.recovers_text_of_isPrintable printable Grammar.separates_nil 0
  have tokenized : tokenize e.text = .ok (ts ++ [Token.eof last]) := by
    rw [List.append_nil] at read
    rw [tokenize, read, Lexer.tokensFrom]
    rfl
  have returns := returns_parseTokens (Grammar.derives_expr_of_phrase phrase) last
  have parsed : parseExpr e.text = parseTokens (ts ++ [Token.eof last]) := by
    rw [parseExpr, tokenized]
  rw [parsed]
  constructor
  · intro fits
    exact returns.1 (Nat.succ_le_succ fits)
  · intro deep
    exact returns.2 (Nat.lt_succ_of_le deep)

/-- An expression under some negations. -/
def Expr.negated : Nat → Expr → Expr
  | 0, e => e
  | n + 1, e => .unary .not (Expr.negated n e)

theorem Expr.isPrintable_negated {e : Expr} (printable : e.IsPrintable) (n : Nat) :
    (e.negated n).IsPrintable := by
  induction n with
  | zero => exact printable
  | succ n ih =>
    refine Expr.isPrintable_iff.mpr ⟨fun notNot => absurd rfl notNot, ?_⟩
    simpa [negated, children] using ih

theorem Expr.nesting_negated (n : Nat) (e : Expr) : (e.negated n).nesting = e.nesting + n := by
  induction n with
  | zero => rfl
  | succ n ih => rw [negated, nesting, ih, Nat.add_assoc]

theorem Expr.isPrintable_leaf {e : Expr} (leaf : e.children = []) (node : e.NodePrintable) :
    e.IsPrintable := by
  refine Expr.isPrintable_iff.mpr ⟨node, ?_⟩
  rw [leaf]
  exact List.forall_mem_nil _

/-- One expression that is read back, and one with a negation too many. -/
theorem parseExpr_text_both :
    (∃ e : Expr, e.text = "(a ? \"\\\"\" : Math.max(-b, [1]))" ∧ e.IsPrintable ∧ e.nesting ≤ 31 ∧
        parseExpr e.text = .ok e) ∧
      ∃ e : Expr, e.IsPrintable ∧ 32 ≤ e.nesting ∧
        ∃ position, parseExpr e.text = .error (.rejected ⟨.tooDeep, position⟩) := by
  have a : Expr.IsPrintable (.identifier "a") :=
    Expr.isPrintable_leaf rfl (show isIdentifier "a" = true by decide)
  have b : Expr.IsPrintable (.identifier "b") :=
    Expr.isPrintable_leaf rfl (show isIdentifier "b" = true by decide)
  have quote : Expr.IsPrintable (.literal (.text "\"")) :=
    Expr.isPrintable_leaf rfl (show '\n' ∉ "\"".toList by decide)
  have one : Expr.IsPrintable (.literal (.number 1)) :=
    Expr.isPrintable_leaf rfl (show (0 : Int) ≤ 1 ∧ (1 : Int) ≤ 9007199254740991 by decide)
  constructor
  · have minus : Expr.IsPrintable (.unary .neg (.identifier "b")) := by
      refine Expr.isPrintable_iff.mpr ⟨fun _ _ => by rintro ⟨⟩, ?_⟩
      exact List.forall_mem_singleton.mpr b
    have array : Expr.IsPrintable (.array [.literal (.number 1)]) :=
      Expr.isPrintable_iff.mpr ⟨trivial, List.forall_mem_singleton.mpr one⟩
    have call : Expr.IsPrintable (.call "Math" "max"
        [.unary .neg (.identifier "b"), .array [.literal (.number 1)]]) := by
      have names : isIdentifier "Math" = true ∧ isIdentifier "max" = true := by decide
      refine Expr.isPrintable_iff.mpr ⟨names, ?_⟩
      exact List.forall_mem_cons.mpr ⟨minus, List.forall_mem_singleton.mpr array⟩
    have printable : Expr.IsPrintable (.conditional (.identifier "a") (.literal (.text "\""))
        (.call "Math" "max" [.unary .neg (.identifier "b"), .array [.literal (.number 1)]])) := by
      refine Expr.isPrintable_iff.mpr ⟨trivial, ?_⟩
      exact List.forall_mem_cons.mpr ⟨a, List.forall_mem_cons.mpr ⟨quote,
        List.forall_mem_singleton.mpr call⟩⟩
    exact ⟨_, by decide, printable, by decide, (parseExpr_text printable).1 (by decide)⟩
  · have printable := Expr.isPrintable_negated a 32
    have deep : 32 ≤ (Expr.negated 32 (.identifier "a")).nesting := by
      rw [Expr.nesting_negated]
      exact Nat.le_add_left _ _
    exact ⟨_, printable, deep, (parseExpr_text printable).2 deep⟩

end FormEngine
