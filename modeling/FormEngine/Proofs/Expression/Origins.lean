/-
  FormEngine/Proofs/Expression/Origins.lean
  =========================================
  **Where the names and the literals of a parsed tree come from.**

  Every name of a tree is the text of a name token, and every literal is what a token
  writes (`stemsFrom_of_derives`).  So a parsed tree holds nothing that the lexer does
  not let through: its names are plain words, its integers are safe and not negative,
  and no binary64 number of it is negative (`isLexical_of_parseExpr`).
-/
import FormEngine.Proofs.Expression.Occurrence
import FormEngine.Proofs.Expression.Parsing
import FormEngine.Proofs.Number.Rounding

namespace FormEngine

namespace Grammar

variable {ts us : List Token} {e : Expr}

/-! ### Tokens of nodes -/

/-- What the node itself holds is written by the tokens: its names, or the literal that it is. -/
def NodeFrom (ts : List Token) : Expr → Prop
  | .literal value => ∃ t ∈ ts, t.Writes value
  | .identifier name | .member _ name => ∃ t ∈ ts, t.kind = .ident ∧ t.text = name
  | .call space name _ =>
    (∃ t ∈ ts, t.kind = .ident ∧ t.text = space) ∧ ∃ t ∈ ts, t.kind = .ident ∧ t.text = name
  | _ => True

/-- What the nodes of the expression hold is written by the tokens. -/
def StemsFrom (ts : List Token) (e : Expr) : Prop := ∀ f, Expr.Occurs f e → NodeFrom ts f

theorem NodeFrom.mono (h : NodeFrom ts e) (included : ∀ t ∈ ts, t ∈ us) : NodeFrom us e := by
  cases e with
  | literal value =>
    obtain ⟨t, member, writes⟩ := h
    exact ⟨t, included t member, writes⟩
  | identifier name | member target name =>
    obtain ⟨t, member, isName⟩ := h
    exact ⟨t, included t member, isName⟩
  | call space name arguments =>
    obtain ⟨⟨t, member, isSpace⟩, ⟨u, member', isName⟩⟩ := h
    exact ⟨⟨t, included t member, isSpace⟩, ⟨u, included u member', isName⟩⟩
  | _ => trivial

theorem StemsFrom.mono (h : StemsFrom ts e) (included : ∀ t ∈ ts, t ∈ us) : StemsFrom us e :=
  fun f occurs => (h f occurs).mono included

theorem stemsFrom_of_children (own : NodeFrom ts e) (inside : ∀ c ∈ e.children, StemsFrom ts c) :
    StemsFrom ts e :=
  Expr.forall_occurs_iff.mpr ⟨own, inside⟩

theorem StemsFrom.of_children (h : StemsFrom ts e) {c : Expr} (child : c ∈ e.children) :
    StemsFrom ts c :=
  (Expr.forall_occurs_iff.mp h).2 c child

/-- A phrase holds nothing but what its tokens write. -/
theorem stemsFrom_of_derives {c : Category} {n : Nat} (h : Derives c ts e n) : StemsFrom ts e := by
  induction h with
  | expr _ ih => exact ih
  | condition _ ih => exact ih
  | conditional _ _ _ _ _ condition thenBranch elseBranch =>
    refine stemsFrom_of_children trivial ?_
    simp only [Expr.children, List.forall_mem_cons]
    refine ⟨condition.mono ?_, thenBranch.mono ?_, elseBranch.mono ?_, List.forall_mem_nil _⟩
    all_goals
      intro t member
      simp [member]
  | operand _ ih => exact ih
  | binary _ _ _ left right =>
    refine stemsFrom_of_children trivial ?_
    simp only [Expr.children, List.forall_mem_cons]
    refine ⟨left.mono ?_, right.mono ?_, List.forall_mem_nil _⟩
    all_goals
      intro t member
      simp [member]
  | power _ ih => exact ih
  | unary _ _ operand =>
    refine stemsFrom_of_children trivial ?_
    simp only [Expr.children, List.forall_mem_cons]
    exact ⟨operand.mono (fun t => List.mem_cons_of_mem _), List.forall_mem_nil _⟩
  | base _ ih => exact ih
  | pow _ _ _ base exponent =>
    refine stemsFrom_of_children trivial ?_
    simp only [Expr.children, List.forall_mem_cons]
    refine ⟨base.mono ?_, exponent.mono ?_, List.forall_mem_nil _⟩
    all_goals
      intro t member
      simp [member]
  | primary _ ih => exact ih
  | call isSpace _ isName _ _ _ inside =>
    refine stemsFrom_of_children ⟨⟨_, by simp, isSpace, rfl⟩, ⟨_, by simp, isName, rfl⟩⟩ ?_
    intro c child
    exact (inside.of_children child).mono (fun t member => by simp [member])
  | member _ _ isName target =>
    refine stemsFrom_of_children ⟨_, by simp, isName, rfl⟩ ?_
    simp only [Expr.children, List.forall_mem_cons]
    exact ⟨target.mono (fun t => List.mem_append_left _), List.forall_mem_nil _⟩
  | index _ _ _ _ target place =>
    refine stemsFrom_of_children trivial ?_
    simp only [Expr.children, List.forall_mem_cons]
    refine ⟨target.mono ?_, place.mono ?_, List.forall_mem_nil _⟩
    all_goals
      intro t member
      simp [member]
  | literal writes =>
    exact stemsFrom_of_children ⟨_, List.mem_singleton_self _, writes⟩ (List.forall_mem_nil _)
  | identifier isName =>
    exact stemsFrom_of_children ⟨_, List.mem_singleton_self _, isName, rfl⟩ (List.forall_mem_nil _)
  | parenthesised _ _ _ inside => exact inside.mono (fun t member => by simp [member])
  | array _ _ _ inside => exact inside.mono (fun t member => by simp [member])
  | item _ only =>
    refine stemsFrom_of_children trivial ?_
    simp only [Expr.children, List.forall_mem_cons]
    exact ⟨only, List.forall_mem_nil _⟩
  | cons _ _ _ first others =>
    refine stemsFrom_of_children trivial ?_
    simp only [Expr.children, List.forall_mem_cons]
    refine ⟨first.mono (fun t => List.mem_append_left _), ?_⟩
    intro c member
    exact (others.of_children member).mono (fun t member => by simp [member])
  | empty => exact stemsFrom_of_children trivial (List.forall_mem_nil _)
  | list _ ih => exact ih

end Grammar

/-! ### Lexical trees -/

theorem Lexer.isIdentifier_of_isLexeme {t : Token} (h : IsLexeme t) (isName : t.kind = .ident) :
    isIdentifier t.text = true := by
  obtain ⟨c, s, position, l, found, kind, written⟩ := h
  rw [← written]
  exact isIdentifier_of_lexeme found (kind.trans isName)

/-- The literal can be written by a token: no number is negative, and no integer beyond the
    safe range. -/
def Literal.IsLexical : Literal → Prop
  | .number (.int n) => 0 ≤ n ∧ n ≤ Number.maxSafeInteger
  | .number (.float x) => x.isNegative = false
  | _ => True

theorem Literal.isLexical_normalise (n : Nat) :
    (Literal.number (Number.normalise (.int n))).IsLexical := by
  rw [Number.normalise, Int.natAbs_natCast]
  split
  · next safe => exact ⟨Int.natCast_nonneg n, by exact_mod_cast safe⟩
  · exact Binary64.isNegative_ofRatio

theorem Literal.isLexical_of_writes {t : Token} {value : Literal} (h : t.Writes value) :
    value.IsLexical := by
  cases h with
  | integer _ _ => exact isLexical_normalise _
  | decimal _ _ => exact Binary64.isNegative_ofDecimal
  | nan _ | infinity _ => rfl
  | _ => trivial

namespace Expr

/-- The node itself holds nothing but what tokens write. -/
def NodeLexical : Expr → Prop
  | .literal value => value.IsLexical
  | .identifier name | .member _ name => isIdentifier name = true
  | .call space name _ => isIdentifier space = true ∧ isIdentifier name = true
  | _ => True

/-- Every node holds nothing but what tokens write. -/
def IsLexical (e : Expr) : Prop := ∀ f, Occurs f e → f.NodeLexical

theorem isLexical_iff {e : Expr} :
    e.IsLexical ↔ e.NodeLexical ∧ ∀ c ∈ e.children, c.IsLexical :=
  forall_occurs_iff

theorem nodeLexical_of_nodeFrom {ts : List Token} {e : Expr}
    (lexemes : ∀ t ∈ ts, Lexer.IsLexeme t) (h : Grammar.NodeFrom ts e) : e.NodeLexical := by
  have plain : ∀ name, (∃ t ∈ ts, t.kind = .ident ∧ t.text = name) → isIdentifier name = true := by
    rintro _ ⟨t, member, isName, rfl⟩
    exact Lexer.isIdentifier_of_isLexeme (lexemes t member) isName
  cases e with
  | literal value =>
    obtain ⟨t, _, writes⟩ := h
    exact Literal.isLexical_of_writes writes
  | identifier name | member target name => exact plain name h
  | call space name arguments => exact ⟨plain space h.1, plain name h.2⟩
  | _ => trivial

end Expr

/-- The tree of a text holds nothing but what tokens write. -/
theorem isLexical_of_parseExpr {source : String} {e : Expr} (parsed : parseExpr source = .ok e) :
    e.IsLexical := by
  obtain ⟨ts, tokenized, parsed⟩ := parseExpr_eq_ok_iff.mp parsed
  obtain ⟨body, _, _, _, lexemes, phrase⟩ := exists_phrase_of_parseTokens tokenized parsed
  intro f occurs
  exact Expr.nodeLexical_of_nodeFrom lexemes (Grammar.stemsFrom_of_derives phrase f occurs)

end FormEngine
