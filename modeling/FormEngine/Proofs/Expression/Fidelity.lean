/-
  FormEngine/Proofs/Expression/Fidelity.lean
  ==========================================
  **What the text of a parsed expression is read back as.**

  The text of a tree that was parsed is either no expression, or it is read as
  `Expr.reread` of the tree (`recalls_bareText`): whatever is parsed from it is this
  tree, and it is the tree that was written exactly if that is faithful
  (`parseExpr_text_of_parseExpr`).

  The induction is on the tree, for every text that may stand behind it.  It speaks of
  the text without the operators in front, because these do not belong to the node that
  writes them once an access or a power follows.
-/
import FormEngine.Proofs.Expression.Origins
import FormEngine.Proofs.Expression.Spoiling
import FormEngine.Proofs.Number.Layout

namespace FormEngine

namespace Expr

/-! ### The text behind the leading operators -/

/-- The text of the tree without the operators that it begins with. -/
def bareText : Expr → List Char
  | .unary _ operand => operand.bareText
  | .member target property => target.bareText ++ '.' :: property.toList
  | .index target place => target.bareText ++ '[' :: (place.text.toList ++ [']'])
  | e => e.text.toList

/-- The symbols of operators in a row. -/
def operatorText (ops : List UnaryOp) : List Char := ops.flatMap (fun op => op.symbol.toList)

theorem operatorText_cons (op : UnaryOp) (ops : List UnaryOp) :
    operatorText (op :: ops) = op.symbol.toList ++ operatorText ops := List.flatMap_cons

theorem toList_text_eq (e : Expr) : e.text.toList = operatorText e.leading ++ e.bareText := by
  induction e using induction_children with
  | step e ih =>
    cases e with
    | member target property =>
      rw [toList_text_member, ih target List.mem_cons_self, List.append_assoc]
      rfl
    | index target place =>
      rw [toList_text_index, ih target List.mem_cons_self, List.append_assoc]
      rfl
    | unary op operand =>
      rw [toList_text_unary, ih operand List.mem_cons_self, ← List.append_assoc]
      rfl
    | _ => rfl

variable {e : Expr} {n : Int} {property : String}

theorem isInteger_iff : e.isInteger = true ↔ ∃ n, e = .literal (.number (.int n)) := by
  unfold isInteger
  split
  · next n => exact iff_of_true rfl ⟨n, rfl⟩
  · next other => exact iff_of_false (by decide) (fun ⟨n, same⟩ => other n same)

theorem accessed_of_not_isInteger (notInteger : e.isInteger = false) :
    accessed e property = member e property :=
  accessed_eq_iff.mpr ⟨rfl, fun integer => by rw [notInteger] at integer; cases integer⟩

theorem withOperators_ne_integer {ops : List UnaryOp} (other : e ≠ .literal (.number (.int n))) :
    withOperators ops e ≠ .literal (.number (.int n)) := by
  cases ops with
  | nil => exact other
  | cons op ops =>
    intro same
    cases same

/-- Where an integer is read behind the leading operators, its digits are written there. -/
theorem integer_of_core (h : e.core = .literal (.number (.int n))) :
    Occurs (.literal (.number (.int n))) e ∧
      e.bareText = (Literal.number (.int n)).render.toList := by
  induction e using induction_children with
  | step e ih =>
    cases e with
    | literal value =>
      cases h
      exact ⟨.root _, rfl⟩
    | unary op operand =>
      obtain ⟨occurs, text⟩ := ih operand List.mem_cons_self h
      exact ⟨.inside List.mem_cons_self occurs, text⟩
    | member target property =>
      exfalso
      change accessed target.core property = _ at h
      unfold accessed at h
      split at h
      · cases h
      · cases h
    | binary op left right =>
      exfalso
      rw [core] at h
      split at h
      · exact withOperators_ne_integer (by simp) h
      · cases h
    | _ => cases h

end Expr

namespace Grammar

open Lexer

variable {c d : Category} {text rest : List Char} {e l r : Expr} {es : List Expr} {m n p : Nat}
  {ts : List Token}

/-! ### Texts that are read, if at all -/

/-- The text in front of the rest is read as a phrase of the tree, or it spoils the whole. -/
def Recalls (c : Category) (text rest : List Char) (e : Expr) : Prop :=
  Spoils (text ++ rest) ∨ ∃ n, Recovers c text rest e n

theorem Recalls.lift (h : Recalls c text rest l) (up : Nat → Nat)
    (lift : ∀ n ts, Derives c ts l n → Derives d ts r (up n)) : Recalls d text rest r := by
  refine h.imp_right ?_
  rintro ⟨n, recovers⟩
  exact ⟨up n, recovers.lift (lift n)⟩

theorem Recovers.spoils (h : Recovers c text rest e n) (spoils : Spoils rest) :
    Spoils (text ++ rest) := by
  refine spoils_of_reads (fun p => ?_) spoils
  obtain ⟨ts, q, read, _⟩ := h p
  exact ⟨ts, q, read⟩

theorem recalls_member {property : String} (isName : isIdentifier property = true)
    (ends : EndsWord rest) (target : Recalls .access text ('.' :: (property.toList ++ rest)) e) :
    Recalls .access (text ++ '.' :: property.toList) rest (.member e property) := by
  rcases target with spoils | ⟨n, target⟩
  · exact Or.inl (by simpa using spoils)
  · exact Or.inr ⟨n, recovers_member isName ends target⟩

theorem recalls_index {inner : List Char}
    (target : Recalls .access text ('[' :: (inner ++ ']' :: rest)) l)
    (place : Recalls .expr inner (']' :: rest) r) :
    Recalls .access (text ++ '[' :: (inner ++ [']'])) rest (.index l r) := by
  rcases target with spoils | ⟨m, target⟩
  · exact Or.inl (by simpa using spoils)
  rcases place with spoils | ⟨n, place⟩
  · have bracket := (takes_punctuation squareBrackets.1).spoils spoils
    exact Or.inl (by simpa using target.spoils bracket)
  · exact Or.inr ⟨_, recovers_index target place⟩

theorem recalls_call {space name : String} (isSpace : isIdentifier space = true)
    (isName : isIdentifier name = true) (inside : Recalls .list text (')' :: rest) (.array es)) :
    Recalls .access (space.toList ++ '.' :: (name.toList ++ '(' :: (text ++ [')']))) rest
      (.call space name es) := by
  rcases inside with spoils | ⟨n, inside⟩
  · refine Or.inl ?_
    have paren := (takes_punctuation roundBrackets.1).spoils spoils
    have endsAtParen : EndsWord ('(' :: (text ++ ')' :: rest)) := endsWord_cons rfl
    have endsAtPoint : EndsWord ('.' :: (name.toList ++ '(' :: (text ++ ')' :: rest))) :=
      endsWord_cons rfl
    have access : Spoils ('.' :: (name.toList ++ '(' :: (text ++ ')' :: rest))) := by
      refine spoils_of_reads (fun p => ?_) paren
      obtain ⟨dot, q, q', _, read⟩ := reads_property isName endsAtParen (p := p)
      exact ⟨_, q', read⟩
    have whole := (recovers_identifier isSpace endsAtPoint).spoils access
    simpa using whole
  · exact Or.inr ⟨n, recovers_call isSpace isName inside⟩

theorem recalls_array (inside : Recalls .list text (']' :: rest) (.array es)) :
    Recalls .access ('[' :: (text ++ [']'])) rest (.array es) := by
  rcases inside with spoils | ⟨n, inside⟩
  · have bracket := (takes_punctuation squareBrackets.1).spoils spoils
    exact Or.inl (by simpa using bracket)
  · exact Or.inr ⟨n, recovers_array inside⟩

theorem recalls_parenthesised (inside : Recalls .expr text (')' :: rest) e) :
    Recalls .access ('(' :: (text ++ [')'])) rest e := by
  rcases inside with spoils | ⟨n, inside⟩
  · have paren := (takes_punctuation roundBrackets.1).spoils spoils
    exact Or.inl (by simpa using paren)
  · exact Or.inr ⟨n, recovers_parenthesised inside⟩

/-- An operand that is read in front of an operator and a text that spoils. -/
theorem spoils_operator {op : BinaryOp} {left right : List Char}
    (first : Recovers c left (' ' :: (op.symbol.toList ++ ' ' :: (right ++ rest))) e n)
    (spoils : Spoils (right ++ rest)) :
    Spoils ((left ++ ' ' :: (op.symbol.toList ++ ' ' :: right)) ++ rest) := by
  have operator := spoils_blank ((takes_symbol op).spoils (spoils_blank spoils))
  simpa using first.spoils operator

theorem recalls_binary {level : Level} {op : BinaryOp} {left right : List Char}
    (operator : level.operator? (kindOf op) = some op)
    (first : Recalls (.chain level) left (' ' :: (op.symbol.toList ++ ' ' :: (right ++ rest))) l)
    (second : Recalls level.operand right rest r) :
    Recalls (.chain level) (left ++ ' ' :: (op.symbol.toList ++ ' ' :: right)) rest
      (.binary op l r) := by
  rcases first with spoils | ⟨m, first⟩
  · exact Or.inl (by simpa using spoils)
  rcases second with spoils | ⟨n, second⟩
  · exact Or.inl (spoils_operator first spoils)
  · exact Or.inr ⟨_, recovers_binary operator first second⟩

theorem recalls_pow {left right : List Char}
    (base : Recalls .access left
      (' ' :: (BinaryOp.pow.symbol.toList ++ ' ' :: (right ++ rest))) l)
    (exponent : Recalls .unary right rest r) :
    Recalls .power (left ++ ' ' :: (BinaryOp.pow.symbol.toList ++ ' ' :: right)) rest
      (.binary .pow l r) := by
  rcases base with spoils | ⟨m, base⟩
  · exact Or.inl (by simpa using spoils)
  rcases exponent with spoils | ⟨n, exponent⟩
  · exact Or.inl (spoils_operator base spoils)
  · exact Or.inr ⟨_, recovers_pow base exponent⟩

theorem recalls_conditional {cs as bs : List Char} {c a b : Expr}
    (condition : Recalls (.chain .nullish) cs
      (' ' :: (['?'] ++ ' ' :: (as ++ ' ' :: ([':'] ++ ' ' :: (bs ++ rest))))) c)
    (thenBranch : Recalls .expr as (' ' :: ([':'] ++ ' ' :: (bs ++ rest))) a)
    (elseBranch : Recalls .conditional bs rest b) :
    Recalls .conditional (cs ++ ' ' :: '?' :: ' ' :: (as ++ ' ' :: ':' :: ' ' :: bs)) rest
      (.conditional c a b) := by
  rcases condition with spoils | ⟨k, condition⟩
  · exact Or.inl (by simpa using spoils)
  have question : ∀ s, Spoils s → Spoils (' ' :: '?' :: ' ' :: s) :=
    fun s spoils => spoils_blank (takes_question.spoils (spoils_blank spoils))
  have takesColon : ∀ s, Takes .colon (':' :: s) s := fun s => takes_punctuation (by decide)
  have colon : ∀ s, Spoils s → Spoils (' ' :: ':' :: ' ' :: s) :=
    fun s spoils => spoils_blank ((takesColon _).spoils (spoils_blank spoils))
  rcases thenBranch with spoils | ⟨m, thenBranch⟩
  · exact Or.inl (by simpa using condition.spoils (question _ spoils))
  rcases elseBranch with spoils | ⟨n, elseBranch⟩
  · have inner := thenBranch.spoils (colon _ spoils)
    exact Or.inl (by simpa using condition.spoils (question _ inner))
  · exact Or.inr ⟨_, recovers_conditional condition thenBranch elseBranch⟩

/-! ### What stands behind -/

/-- The rest is empty or begins with a separator. -/
def Separated (rest : List Char) : Prop := ∀ c s, rest = c :: s → c ∈ separators

/-- The rest begins with a separator, or with a point where no integer is read before it. -/
def Follows (e : Expr) (rest : List Char) : Prop :=
  ∀ c s, rest = c :: s → c ∈ separators ∨ c = '.' ∧ e.core.isInteger = false

theorem separated_cons {k : Char} (member : k ∈ separators) (s : List Char) :
    Separated (k :: s) := by
  intro c t same
  cases same
  exact member

theorem Separated.follows (h : Separated rest) (e : Expr) : Follows e rest :=
  fun c s same => Or.inl (h c s same)

/-- Neither a separator nor a point goes on with a word, a number or a sign. -/
theorem Follows.ends (h : Follows e rest) {k : Char} {s : List Char} (same : rest = k :: s) :
    isWordPart k = false ∧ Text.isDecimalDigit k = false ∧ blocksNumber k = false ∧
      k ∉ ['e', 'E', '+', '-'] := by
  have plain : ('.' :: separators).all (fun k => !isWordPart k && !Text.isDecimalDigit k &&
      !blocksNumber k && !List.contains ['e', 'E', '+', '-'] k) = true := by
    decide +kernel
  have member : k ∈ '.' :: separators := by
    rcases h k s same with member | ⟨rfl, _⟩
    · exact List.mem_cons_of_mem _ member
    · exact List.mem_cons_self
  have facts := List.all_eq_true.mp plain k member
  simp only [Bool.and_eq_true, Bool.not_eq_true', List.contains_eq_mem, decide_eq_false_iff_not]
    at facts
  obtain ⟨⟨⟨notPart, notDigit⟩, notBlocked⟩, other⟩ := facts
  exact ⟨notPart, notDigit, notBlocked, other⟩

theorem Follows.endsWord (h : Follows e rest) : EndsWord rest := fun _ _ same => (h.ends same).1

theorem Follows.endsDecimal (h : Follows e rest) : DecimalLiteral.EndsDecimal rest := by
  intro k s same
  obtain ⟨_, notDigit, _, other⟩ := h.ends same
  simp only [List.mem_cons, not_or] at other
  exact ⟨notDigit, other.1, other.2.1⟩

theorem Follows.separates {value : Literal} (h : Follows (.literal value) rest) :
    Separates (.literal value) rest :=
  fun c s same => (h c s same).imp_right (fun point => ⟨point.1, rfl, point.2⟩)

/-! ### Literals -/

/-- A literal with a point or an exponent, in front of what may follow an expression. -/
theorem recovers_floating {literal : DecimalLiteral} (floating : literal.IsFloating)
    (follows : Follows e rest) :
    Recovers .access literal.chars rest
      (.literal (.number (.float (literal.toBinary64 false)))) 0 := by
  intro p
  have noPoint : literal.isInteger = true → ∀ s, rest ≠ '.' :: s := by
    intro integer
    rw [floating.notInteger] at integer
    cases integer
  obtain ⟨q, read⟩ := reads_number (p := p) floating.written floating.begins follows.endsDecimal
    noPoint (fun k s same => (follows.ends same).2.2.1)
  have scanned : DecimalLiteral.ofText? literal.chars = some literal := by
    have alone := DecimalLiteral.scan_chars_append floating.written DecimalLiteral.endsLiteral_nil
    rw [List.append_nil] at alone
    rw [DecimalLiteral.ofText?, alone]
  refine ⟨_, q, read, .primary (.literal (.decimal ?_ ?_))⟩
  · rw [floating.notInteger]
    rfl
  · rw [String.toList_ofList]
    exact scanned

theorem recalls_literal {value : Literal} (lexical : value.IsLexical)
    (follows : Follows (.literal value) rest) :
    Recalls .access value.render.toList rest (.literal value) := by
  have recovers := fun printable => recovers_literal printable follows.separates
  cases value with
  | null => exact Or.inr ⟨0, recovers trivial⟩
  | bool b => exact Or.inr ⟨0, recovers trivial⟩
  | text s =>
    by_cases lineBreak : '\n' ∈ s.toList
    · exact Or.inl (spoils_lineBreak lineBreak rest)
    · exact Or.inr ⟨0, recovers lineBreak⟩
  | number x =>
    cases x with
    | int n => exact Or.inr ⟨0, recovers lexical⟩
    | float x =>
      cases x with
      | nan => exact Or.inr ⟨0, recovers (Or.inl rfl)⟩
      | infinite negative =>
        change negative = false at lexical
        subst lexical
        exact Or.inr ⟨0, recovers (Or.inr rfl)⟩
      | finite negative mantissa exponent canonical =>
        change negative = false at lexical
        subst lexical
        obtain ⟨literal, floating, chars, value⟩ := Binary64.exists_literal_of_text canonical
        have read := recovers_floating floating follows
        rw [chars, value] at read
        exact Or.inr ⟨0, read⟩


/-! ### Operators in front -/

theorem exists_cons_of_isLexical {value : Literal} (lexical : value.IsLexical) :
    ∃ c s, value.render.toList = c :: s ∧ c ∉ signs := by
  cases value with
  | null => exact exists_cons_of_literal trivial
  | bool b => exact exists_cons_of_literal trivial
  | text s =>
    refine ⟨'\x22', escapeLiteral s.toList ++ ['\x22'], ?_, by decide⟩
    simp [Literal.render]
  | number x =>
    cases x with
    | int n => exact exists_cons_of_literal lexical
    | float x =>
      cases x with
      | nan => exact exists_cons_of_literal (Or.inl rfl)
      | infinite negative =>
        change negative = false at lexical
        subst lexical
        exact exists_cons_of_literal (Or.inr rfl)
      | finite negative mantissa exponent canonical =>
        change negative = false at lexical
        subst lexical
        obtain ⟨literal, floating, chars, _⟩ := Binary64.exists_literal_of_text canonical
        obtain ⟨c, s, whole, digit⟩ := floating.begins
        change ∃ c s, (Binary64.finite false mantissa exponent canonical).text.toList = _ ∧ _
        rw [← chars, DecimalLiteral.chars, whole]
        exact ⟨c, _, rfl, not_mem_signs_of_isDigit digit⟩

/-- Behind the leading operators, no sign is left. -/
theorem exists_bare_cons (lexical : e.IsLexical) : ∃ c s, e.bareText = c :: s ∧ c ∉ signs := by
  induction e using Expr.induction_children with
  | step e ih =>
    obtain ⟨node, inside⟩ := Expr.isLexical_iff.mp lexical
    cases e with
    | literal value => exact exists_cons_of_isLexical node
    | identifier name => exact exists_cons_of_name node
    | member target property =>
      obtain ⟨c, s, split, plain⟩ := ih target List.mem_cons_self (inside target List.mem_cons_self)
      rw [Expr.bareText, split]
      exact ⟨c, _, rfl, plain⟩
    | index target place =>
      obtain ⟨c, s, split, plain⟩ := ih target List.mem_cons_self (inside target List.mem_cons_self)
      rw [Expr.bareText, split]
      exact ⟨c, _, rfl, plain⟩
    | call space name arguments =>
      obtain ⟨c, s, split, plain⟩ := exists_cons_of_name node.1
      change ∃ c s, (Expr.call space name arguments).text.toList = _ ∧ _
      rw [Expr.toList_text_call, split]
      exact ⟨c, _, rfl, plain⟩
    | array items =>
      change ∃ c s, (Expr.array items).text.toList = _ ∧ _
      rw [Expr.toList_text_array]
      exact ⟨'[', _, rfl, by decide⟩
    | binary op left right =>
      change ∃ c s, (Expr.binary op left right).text.toList = _ ∧ _
      rw [Expr.toList_text_binary]
      exact ⟨'(', _, rfl, by decide⟩
    | conditional condition thenBranch elseBranch =>
      change ∃ c s, (Expr.conditional condition thenBranch elseBranch).text.toList = _ ∧ _
      rw [Expr.toList_text_conditional]
      exact ⟨'(', _, rfl, by decide⟩
    | unary op operand => exact ih operand List.mem_cons_self (inside operand List.mem_cons_self)

theorem exists_cons_of_operatorText {c : Char} (plain : c ∉ signs) (ops : List UnaryOp)
    (s : List Char) : ∃ k t, Expr.operatorText ops ++ c :: s = k :: t ∧ k ≠ '=' := by
  cases ops with
  | nil =>
    refine ⟨c, s, rfl, ?_⟩
    rintro rfl
    exact plain List.mem_cons_self
  | cons op ops =>
    have symbol : ∃ k t, op.symbol.toList = k :: t ∧ k ≠ '=' := by
      cases op <;> exact ⟨_, _, rfl, by decide⟩
    obtain ⟨k, t, symbol, notAssign⟩ := symbol
    refine ⟨k, t ++ (Expr.operatorText ops ++ c :: s), ?_, notAssign⟩
    rw [Expr.operatorText_cons, symbol, List.append_assoc]
    rfl

/-- An operator in front of an operand.  The sign of the operand that makes another operator of
    it spoils the text. -/
theorem recalls_unary {op : UnaryOp} {k : Char} {s : List Char} (notAssign : k ≠ '=')
    (operand : Recalls .unary (k :: s) rest e) :
    Recalls .unary (op.symbol.toList ++ k :: s) rest (.unary op e) := by
  by_cases doubled : op.symbol.toList = [k] ∧ op ≠ .not
  · obtain ⟨symbol, notNot⟩ := doubled
    have isSign : k = '-' ∨ k = '+' := by
      cases op with
      | neg =>
        cases symbol
        exact Or.inl rfl
      | pos =>
        cases symbol
        exact Or.inr rfl
      | not => exact absurd rfl notNot
    rw [symbol]
    exact Or.inl (spoils_update isSign (s ++ rest))
  · have notMinus : op = .neg → k ≠ '-' := by
      rintro rfl rfl
      exact doubled ⟨rfl, by decide⟩
    have notPlus : op = .pos → k ≠ '+' := by
      rintro rfl rfl
      exact doubled ⟨rfl, by decide⟩
    rcases operand with spoils | ⟨n, operand⟩
    · obtain ⟨kind, _, takes⟩ := takes_unarySymbol (s := s ++ rest) notAssign notMinus notPlus
      rw [Recalls, List.append_assoc]
      exact Or.inl (takes.spoils spoils)
    · exact Or.inr ⟨_, recovers_unary notAssign notMinus notPlus operand⟩

/-- Operators in front of a text that no sign opens. -/
theorem recalls_withOperators {ops : List UnaryOp} {c : Char} {s : List Char} (plain : c ∉ signs)
    (operand : Recalls .unary (c :: s) rest e) :
    Recalls .unary (Expr.operatorText ops ++ c :: s) rest (Expr.withOperators ops e) := by
  induction ops with
  | nil => exact operand
  | cons op ops ih =>
    obtain ⟨k, t, split, notAssign⟩ := exists_cons_of_operatorText plain ops s
    rw [split] at ih
    rw [Expr.operatorText_cons, List.append_assoc, split]
    exact recalls_unary notAssign ih

/-! ### Lists -/

theorem recalls_cons {others : List Char}
    (first : Recalls .expr text (',' :: ' ' :: (others ++ rest)) e)
    (later : Recalls .items others rest (.array es)) :
    Recalls .items (text ++ ',' :: ' ' :: others) rest (.array (e :: es)) := by
  rcases first with spoils | ⟨m, first⟩
  · exact Or.inl (by simpa using spoils)
  rcases later with spoils | ⟨n, later⟩
  · have takesComma : ∀ s, Takes .comma (',' :: s) s := fun s => takes_punctuation (by decide)
    have comma := (takesComma _).spoils (spoils_blank spoils)
    exact Or.inl (by simpa using first.spoils comma)
  · exact Or.inr ⟨_, recovers_cons first later⟩

theorem recalls_items
    (items : ∀ f ∈ e :: es, ∀ s, Separated s → Recalls .expr f.text.toList s f.reread)
    (behind : Separated rest) :
    Recalls .items (Expr.listText (e :: es)).toList rest (.array (Expr.rereadAll (e :: es))) := by
  induction es generalizing e with
  | nil => exact (items e List.mem_cons_self rest behind).lift id (fun _ _ => .item)
  | cons f es ih =>
    have first := fun s => items e List.mem_cons_self _ (separated_cons (k := ',') (by decide) s)
    have others := ih (fun g member => items g (List.mem_cons_of_mem e member))
    rw [toList_listText_cons]
    exact recalls_cons (first _) others

theorem recalls_list
    (items : ∀ f ∈ es, ∀ s, Separated s → Recalls .expr f.text.toList s f.reread)
    (behind : Separated rest) :
    Recalls .list (Expr.listText es).toList rest (.array (Expr.rereadAll es)) := by
  cases es with
  | nil => exact Or.inr ⟨0, fun p => ⟨[], p, reads_nil, .empty⟩⟩
  | cons e es => exact (recalls_items items behind).lift id (fun _ _ => .list)

/-! ### Accesses -/

theorem isWritten_of_exponentOf? {property : String} {x : LiteralExponent}
    (found : Expr.exponentOf? property = some x) : x.IsWritten ∧ x.chars = property.toList := by
  unfold Expr.exponentOf? at found
  split at found
  · cases found
  · next letter digits split =>
    split at found
    · next shape =>
      obtain ⟨isLetter, ne, ascii⟩ := shape
      cases found
      rw [List.all_eq_true] at ascii
      refine ⟨⟨isLetter, Or.inl rfl, ?_, ne⟩, split.symm⟩
      exact fun c member => isDecimalDigit_of_isAsciiDigit (ascii c member)
    · cases found

theorem isFloating_scaledLiteral {x : LiteralExponent} (written : x.IsWritten) (n : Nat) :
    (Expr.scaledLiteral n x).IsFloating := by
  have digits : ∀ c ∈ Nat.toDigits 10 n, c.isDigit = true := fun c => Text.isDigit_of_mem_toDigits
  refine ⟨⟨?_, ?_, ?_, ?_⟩, rfl, ?_⟩
  · exact fun c member => Text.isDecimalDigit_of_isDigit (digits c member)
  · rintro _ ⟨⟩
    exact List.forall_mem_nil _
  · intro empty
    exact absurd empty Nat.toDigits_ne_nil
  · rintro _ ⟨⟩
    exact written
  · obtain ⟨c, s, split⟩ := List.exists_cons_of_ne_nil (Nat.toDigits_ne_nil (b := 10) (n := n))
    rw [split, List.forall_mem_cons] at digits
    exact ⟨c, s, split, digits.1⟩

/-- Behind an integer, a point and a name are a fraction or spoil the text; behind anything else
    they are an access. -/
theorem recalls_accessed {target : Expr} {property : String} (lexical : target.IsLexical)
    (isName : isIdentifier property = true) (follows : Follows (.member target property) rest)
    (before : ∀ s, Follows target s → Recalls .access target.bareText s target.core) :
    Recalls .access (target.bareText ++ '.' :: property.toList) rest
      (Expr.accessed target.core property) := by
  cases integer : target.core.isInteger with
  | false =>
    have atPoint : Follows target ('.' :: (property.toList ++ rest)) := by
      intro c s same
      cases same
      exact Or.inr ⟨rfl, integer⟩
    rw [Expr.accessed_of_not_isInteger integer]
    exact recalls_member isName follows.endsWord (before _ atPoint)
  | true =>
    obtain ⟨i, core⟩ := Expr.isInteger_iff.mp integer
    obtain ⟨occurs, digits⟩ := Expr.integer_of_core core
    obtain ⟨k, rfl⟩ := Int.eq_ofNat_of_zero_le (lexical _ occurs).1
    rw [Expr.toList_render_int] at digits
    rw [core, digits]
    cases found : Expr.exponentOf? property with
    | none =>
      have ends : ∀ c s, rest = c :: s → Text.isDecimalDigit c = false ∧ c ≠ '+' ∧ c ≠ '-' := by
        intro c s same
        obtain ⟨_, notDigit, _, other⟩ := follows.ends same
        simp only [List.mem_cons, not_or] at other
        exact ⟨notDigit, other.2.2.1, other.2.2.2.1⟩
      have spoils := spoils_point isName found ends k
      exact Or.inl (by simpa using spoils)
    | some x =>
      obtain ⟨written, name⟩ := isWritten_of_exponentOf? found
      have read := recovers_floating (isFloating_scaledLiteral written k) follows
      have chars : (Expr.scaledLiteral k x).chars =
          Nat.toDigits 10 k ++ '.' :: property.toList := by
        simp [Expr.scaledLiteral, DecimalLiteral.chars, name]
      have scaled : Expr.accessed (.literal (.number (.int k))) property =
          .literal (.number (.float ((Expr.scaledLiteral k x).toBinary64 false))) := by
        simp [Expr.accessed, found]
      rw [chars] at read
      rw [scaled]
      exact Or.inr ⟨0, read⟩

/-! ### Whole expressions -/

theorem derives_expr_of_unary (h : Derives .unary ts e n) : Derives .expr ts e (n + 1) :=
  derives_expr_of_chain (.operand (derives_operand_of_unary .nullish h))

/-- What the bare text says, the whole text says under the leading operators. -/
theorem recalls_text (lexical : e.IsLexical)
    (bare : ∀ s, Follows e s → Recalls .access e.bareText s e.core) (separated : Separated rest) :
    Recalls .unary e.text.toList rest e.reread := by
  obtain ⟨c, t, split, plain⟩ := exists_bare_cons lexical
  have operand := (bare rest (separated.follows e)).lift id (fun _ _ h => .power (.base h))
  rw [split] at operand
  rw [Expr.toList_text_eq, split]
  exact recalls_withOperators plain operand

/-- The operators in front of the base are left to the whole power. -/
theorem recalls_power {right : List Char} (lexical : l.IsLexical)
    (bare : ∀ s, Follows l s → Recalls .access l.bareText s l.core)
    (exponent : Recalls .unary right rest r) :
    Recalls .unary (l.text.toList ++ ' ' :: (BinaryOp.pow.symbol.toList ++ ' ' :: right)) rest
      (Expr.withOperators l.leading (.binary .pow l.core r)) := by
  obtain ⟨c, t, split, plain⟩ := exists_bare_cons lexical
  have base := fun s => bare (' ' :: s) ((separated_cons (by decide) s).follows l)
  have power := (recalls_pow (base _) exponent).lift id (fun _ _ => .power)
  rw [split] at power
  rw [Expr.toList_text_eq, split, List.append_assoc]
  exact recalls_withOperators plain power

/-- **In front of what ends it, the text behind the leading operators says the core of the tree,
    or the whole is no expression.** -/
theorem recalls_bareText (lexical : e.IsLexical) (follows : Follows e rest) :
    Recalls .access e.bareText rest e.core := by
  induction e using Expr.induction_children generalizing rest with
  | step e ih =>
    obtain ⟨node, inside⟩ := Expr.isLexical_iff.mp lexical
    have bare : ∀ c ∈ e.children, ∀ s, Follows c s → Recalls .access c.bareText s c.core :=
      fun c child s => ih c child (inside c child)
    have operand : ∀ c ∈ e.children, ∀ s, Separated s → Recalls .unary c.text.toList s c.reread :=
      fun c child s => recalls_text (inside c child) (bare c child)
    have expr : ∀ c ∈ e.children, ∀ s, Separated s → Recalls .expr c.text.toList s c.reread :=
      fun c child s separated =>
        (operand c child s separated).lift (· + 1) (fun _ _ => derives_expr_of_unary)
    cases e with
    | literal value => exact recalls_literal node follows
    | identifier name => exact Or.inr ⟨0, recovers_identifier node follows.endsWord⟩
    | member target property =>
      have child : target ∈ (Expr.member target property).children := List.mem_cons_self
      exact recalls_accessed (inside target child) node follows (bare target child)
    | index target place =>
      have second : place ∈ (Expr.index target place).children := by simp [Expr.children]
      have atBracket := fun s =>
        (separated_cons (k := '[') (by decide) s).follows target
      have before := fun s => bare target List.mem_cons_self _ (atBracket s)
      exact recalls_index (before _)
        (expr place second _ (separated_cons (by decide) rest))
    | call space name arguments =>
      have items := recalls_list expr (separated_cons (k := ')') (by decide) rest)
      change Recalls .access (Expr.call space name arguments).text.toList rest _
      rw [Expr.toList_text_call]
      exact recalls_call node.1 node.2 items
    | array items =>
      have inner := recalls_list expr (separated_cons (k := ']') (by decide) rest)
      change Recalls .access (Expr.array items).text.toList rest _
      rw [Expr.toList_text_array]
      exact recalls_array inner
    | binary op left right =>
      have second : right ∈ (Expr.binary op left right).children := by simp [Expr.children]
      have behind := operand right second _ (separated_cons (k := ')') (by decide) rest)
      change Recalls .access (Expr.binary op left right).text.toList rest _
      rw [Expr.toList_text_binary, Expr.core]
      refine recalls_parenthesised ?_
      by_cases isPow : op = .pow
      · subst isPow
        rw [if_pos rfl]
        have power := recalls_power (inside left List.mem_cons_self) (bare left List.mem_cons_self)
          behind
        exact power.lift _ (fun _ _ => derives_expr_of_unary)
      · obtain ⟨level, operator⟩ := exists_level isPow
        have before := fun s =>
          operand left List.mem_cons_self (' ' :: s) (separated_cons (by decide) s)
        have first := fun s =>
          (before s).lift id (fun _ _ h => .operand (derives_operand_of_unary level h))
        have last := behind.lift id (fun _ _ => derives_operand_of_unary level)
        rw [if_neg isPow]
        exact (recalls_binary operator (first _) last).lift _ (fun _ _ => derives_expr_of_chain)
    | unary op e => exact bare e List.mem_cons_self rest follows
    | conditional condition thenBranch elseBranch =>
      have second : thenBranch ∈ (Expr.conditional condition thenBranch elseBranch).children := by
        simp [Expr.children]
      have third : elseBranch ∈ (Expr.conditional condition thenBranch elseBranch).children := by
        simp [Expr.children]
      have asked := fun s => (operand condition List.mem_cons_self (' ' :: s)
        (separated_cons (by decide) s)).lift id
          (fun _ _ h => .operand (derives_operand_of_unary .nullish h))
      have chosen := fun s => expr thenBranch second (' ' :: s) (separated_cons (by decide) s)
      have otherwise :=
        (operand elseBranch third (')' :: rest) (separated_cons (by decide) rest)).lift id
          (fun _ _ h => .condition (.operand (derives_operand_of_unary .nullish h)))
      change Recalls .access (Expr.conditional condition thenBranch elseBranch).text.toList rest _
      rw [Expr.toList_text_conditional]
      refine recalls_parenthesised ?_
      exact (recalls_conditional (asked _) (chosen _) otherwise).lift _ (fun _ _ => .expr)

end Grammar

theorem not_spoils_of_parseTokens {source : String} {ts : List Token} {e : Expr}
    (tokenized : tokenize source = .ok ts) (parsed : parseTokens ts = .ok e) :
    ¬Lexer.Spoils source.toList := by
  intro spoils
  obtain ⟨body, last, n, rfl, _, phrase⟩ := exists_phrase_of_parseTokens tokenized parsed
  obtain ⟨t, member, isUpdate⟩ := spoils 0 _ tokenized
  rcases List.mem_append.mp member with inside | last
  · exact (phrase.isPart t inside).kind_ne (by decide) (by decide) isUpdate
  · rw [List.mem_singleton.mp last] at isUpdate
    cases isUpdate

/-- **The text of a parsed expression, where it is an expression at all, is read as
    `Expr.reread` says**, which is the expression itself exactly if that is faithful. -/
theorem parseExpr_text_of_parseExpr {source : String} {e e' : Expr}
    (parsed : parseExpr source = .ok e) (again : parseExpr e.text = .ok e') :
    e' = e.reread ∧ (e' = e ↔ e.IsFaithful) := by
  have lexical := isLexical_of_parseExpr parsed
  have said : Grammar.Recalls .unary e.text.toList [] e.reread :=
    Grammar.recalls_text lexical (fun s => Grammar.recalls_bareText lexical) (by rintro _ _ ⟨⟩)
  have same : e' = e.reread := by
    obtain ⟨ts, tokenized, parsed'⟩ := parseExpr_eq_ok_iff.mp again
    rcases said with spoils | ⟨n, recovers⟩
    · rw [List.append_nil] at spoils
      exact absurd spoils (not_spoils_of_parseTokens tokenized parsed')
    · obtain ⟨body, last, m, rfl, _, phrase⟩ := exists_phrase_of_parseTokens tokenized parsed'
      obtain ⟨us, q, read, phrase'⟩ := recovers 0
      rw [List.append_nil, Lexer.Reads] at read
      change Lexer.tokensFrom e.text.toList 0 = _ at tokenized
      rw [read, Lexer.tokensFrom] at tokenized
      obtain ⟨rfl, _⟩ := List.append_inj' (Except.ok.inj tokenized) rfl
      exact phrase.unique (Grammar.derives_expr_of_unary phrase')
  refine ⟨same, ?_⟩
  rw [same]
  exact Expr.reread_eq_iff e

/-- A sign that applies to a whole access is read back; behind an integer and a point, what was a
    property is read as an exponent. -/
theorem parseExpr_text_of_parseExpr_both :
    (∃ e, parseExpr "x[-a.y]" = .ok e ∧ parseExpr e.text = .ok e ∧ e.IsFaithful) ∧
      ∃ e e', parseExpr "1 .e5" = .ok e ∧ parseExpr e.text = .ok e' ∧
        e' = .literal (.number (.float (.ofRatio false 100000 1))) ∧ e' = e.reread ∧
        ¬e.IsFaithful := by
  constructor
  · have tokenized : tokenize "x[-a.y]" = .ok [⟨.ident, "x", 0⟩, ⟨.lbracket, "[", 1⟩,
        ⟨.minus, "-", 2⟩, ⟨.ident, "a", 3⟩, ⟨.dot, ".", 4⟩, ⟨.ident, "y", 5⟩,
        ⟨.rbracket, "]", 6⟩, Token.eof 7] :=
      Except.eq_ok_of_toOption_eq_some (by decide +kernel)
    have parsed : parseExpr "x[-a.y]" = .ok (.index (.identifier "x")
        (.unary .neg (.member (.identifier "a") "y"))) :=
      parseExpr_eq_ok_iff.mpr ⟨_, tokenized, rfl⟩
    have faithful := (parseExpr_text_of_parseExpr parsed parsed).2.mp rfl
    exact ⟨_, parsed, parsed, faithful⟩
  · have tokenized : tokenize "1 .e5" = .ok [⟨.int, "1", 0⟩, ⟨.dot, ".", 2⟩, ⟨.ident, "e5", 3⟩,
        Token.eof 5] :=
      Except.eq_ok_of_toOption_eq_some (by decide +kernel)
    have parsed : parseExpr "1 .e5" = .ok (.member (.literal (.number 1)) "e5") :=
      parseExpr_eq_ok_iff.mpr ⟨_, tokenized, rfl⟩
    have retokenized : tokenize "1.e5" = .ok [⟨.float, "1.e5", 0⟩, Token.eof 4] :=
      Except.eq_ok_of_toOption_eq_some (by decide +kernel)
    have again : parseExpr (Expr.member (.literal (.number 1)) "e5").text =
        .ok (.literal (.number (.float (.ofRatio false 100000 1)))) :=
      parseExpr_eq_ok_iff.mpr ⟨_, retokenized, rfl⟩
    obtain ⟨reread, faithful⟩ := parseExpr_text_of_parseExpr parsed again
    refine ⟨_, _, parsed, again, rfl, reread, fun h => ?_⟩
    cases faithful.mpr h

/-- In the text of a power the sign of its base applies to the power. -/
theorem parseExpr_text_ne_of_negatedBase :
    ∃ e e', parseExpr "(-a) ** b" = .ok e ∧ e.text = "(-a ** b)" ∧ parseExpr e.text = .ok e' ∧
      e = .binary .pow (.unary .neg (.identifier "a")) (.identifier "b") ∧
      e' = .unary .neg (.binary .pow (.identifier "a") (.identifier "b")) ∧ e' ≠ e := by
  have tokenized : tokenize "(-a) ** b" = .ok [⟨.lparen, "(", 0⟩, ⟨.minus, "-", 1⟩,
      ⟨.ident, "a", 2⟩, ⟨.rparen, ")", 3⟩, ⟨.starstar, "**", 5⟩, ⟨.ident, "b", 8⟩, Token.eof 9] :=
    Except.eq_ok_of_toOption_eq_some (by decide +kernel)
  have retokenized : tokenize "(-a ** b)" = .ok [⟨.lparen, "(", 0⟩, ⟨.minus, "-", 1⟩,
      ⟨.ident, "a", 2⟩, ⟨.starstar, "**", 4⟩, ⟨.ident, "b", 7⟩, ⟨.rparen, ")", 8⟩, Token.eof 9] :=
    Except.eq_ok_of_toOption_eq_some (by decide +kernel)
  have parsed : parseExpr "(-a) ** b" =
      .ok (.binary .pow (.unary .neg (.identifier "a")) (.identifier "b")) :=
    parseExpr_eq_ok_iff.mpr ⟨_, tokenized, rfl⟩
  have again : parseExpr (Expr.binary .pow (.unary .neg (.identifier "a")) (.identifier "b")).text =
      .ok (.unary .neg (.binary .pow (.identifier "a") (.identifier "b"))) :=
    parseExpr_eq_ok_iff.mpr ⟨_, retokenized, rfl⟩
  refine ⟨_, _, parsed, by decide, again, rfl, rfl, ?_⟩
  intro same
  cases same

end FormEngine
