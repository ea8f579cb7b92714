/-
  FormEngine/Proofs/Expression/TextIndices.lean
  =============================================
  **Where a text literal is an index.**

  The screening refuses a value, an opening square bracket and a string literal that
  follow each other.  In the tree, an index is a text literal exactly where the tokens
  show a value and in square brackets a string literal that may itself stand in any
  number of round brackets (`Derives.indexesByText_iff`).  With none of these the
  screening sees it (`not_isTextAccess_zero_of_screenTokens`), so what passes is exactly
  the text in round brackets.

  A stretch of tokens of this form (`IsTextAccess`) ends with a bracket that its second
  token opens, and it has none of the tokens that productions put between two phrases.
  So it lies within one part of a phrase, or it is the access that the phrase makes.
-/
import FormEngine.Proofs.Expression.Brackets
import FormEngine.Proofs.Expression.RoundTrip
import FormEngine.Proofs.Expression.Safety
import Mathlib.Data.List.Infix

namespace FormEngine

/-! ### Trees -/

namespace Expr

variable {e : Expr}

/-- Somewhere in the expression something is accessed by a text literal. -/
def IndexesByText (e : Expr) : Prop :=
  ∃ target content, Occurs (.index target (.literal (.text content))) e

theorem indexesByText_iff : e.IndexesByText ↔
    (∃ target content, e = .index target (.literal (.text content))) ∨
      ∃ c ∈ e.children, c.IndexesByText := by
  constructor
  · rintro ⟨target, content, occurs⟩
    rcases occurs_iff.mp occurs with same | ⟨c, child, within⟩
    · exact Or.inl ⟨target, content, same.symm⟩
    · exact Or.inr ⟨c, child, target, content, within⟩
  · rintro (⟨target, content, rfl⟩ | ⟨c, child, target, content, within⟩)
    · exact ⟨target, content, .root _⟩
    · exact ⟨target, content, .inside child within⟩

theorem indexesByText_iff_of_ne (noIndex : ∀ target place, e ≠ .index target place) :
    e.IndexesByText ↔ ∃ c ∈ e.children, c.IndexesByText := by
  rw [indexesByText_iff, or_iff_right]
  rintro ⟨target, content, same⟩
  exact noIndex target _ same

section Nodes

variable {l r t : Expr} {es : List Expr}

theorem not_indexesByText_literal (value : Literal) : ¬(literal value).IndexesByText := by
  rw [indexesByText_iff_of_ne (by nofun)]
  simp [children]

theorem not_indexesByText_identifier (name : String) : ¬(identifier name).IndexesByText := by
  rw [indexesByText_iff_of_ne (by nofun)]
  simp [children]

theorem indexesByText_member (property : String) :
    (member t property).IndexesByText ↔ t.IndexesByText := by
  rw [indexesByText_iff_of_ne (by nofun)]
  simp [children]

theorem indexesByText_index : (index t e).IndexesByText ↔
    (t.IndexesByText ∨ e.IndexesByText) ∨ ∃ content, e = .literal (.text content) := by
  rw [indexesByText_iff]
  simp [children, or_comm]

theorem indexesByText_array : (array es).IndexesByText ↔ ∃ e ∈ es, e.IndexesByText :=
  indexesByText_iff_of_ne (by nofun)

theorem indexesByText_call (space name : String) :
    (call space name es).IndexesByText ↔ (array es).IndexesByText := by
  rw [indexesByText_iff_of_ne (by nofun), indexesByText_array]
  rfl

theorem indexesByText_binary (op : BinaryOp) :
    (binary op l r).IndexesByText ↔ l.IndexesByText ∨ r.IndexesByText := by
  rw [indexesByText_iff_of_ne (by nofun)]
  simp [children]

theorem indexesByText_unary (op : UnaryOp) :
    (unary op e).IndexesByText ↔ e.IndexesByText := by
  rw [indexesByText_iff_of_ne (by nofun)]
  simp [children]

theorem indexesByText_conditional : (conditional e l r).IndexesByText ↔
    e.IndexesByText ∨ l.IndexesByText ∨ r.IndexesByText := by
  rw [indexesByText_iff_of_ne (by nofun)]
  simp [children]

end Nodes

end Expr

/-! ### Stretches of tokens -/

/-- A string literal in this number of round brackets. -/
inductive WrapsText : Nat → List Token → Prop
  | bare {t : Token} (isString : t.kind = .string) : WrapsText 0 [t]
  | wrapped {n : Nat} {ts : List Token} {paren close : Token} (opens : paren.kind = .lparen)
      (inside : WrapsText n ts) (closes : close.kind = .rparen) :
      WrapsText (n + 1) (paren :: (ts ++ [close]))

/-- A token that ends a value, and in square brackets behind it a string literal in this number of
    round brackets. -/
inductive IsTextAccess : Nat → List Token → Prop
  | intro {n : Nat} {value bracket close : Token} {ts : List Token}
      (ends : Screening.endsValue value.kind = true) (opens : bracket.kind = .lbracket)
      (wraps : WrapsText n ts) (closes : close.kind = .rbracket) :
      IsTextAccess n (value :: bracket :: (ts ++ [close]))

/-- Some stretch of the tokens is an access by text. -/
def AccessesByText (ts : List Token) : Prop := ∃ n w, IsTextAccess n w ∧ w <:+: ts

section Stretches

variable {ts us w : List Token} {t u bracket close : Token} {n : Nat}

theorem WrapsText.kind (h : WrapsText n ts) :
    ∀ t ∈ ts, t.kind = .string ∨ t.kind = .lparen ∨ t.kind = .rparen := by
  induction h with
  | bare isString => simp [isString]
  | wrapped opens _ closes ih =>
    simp only [List.forall_mem_cons, List.forall_mem_append]
    exact ⟨Or.inr (Or.inl opens), ih, Or.inr (Or.inr closes), List.forall_mem_nil _⟩

theorem WrapsText.nests (h : WrapsText n ts) : Bracket.Nests (brackets ts) := by
  induction h with
  | bare isString =>
    simp only [brackets_cons, brackets_nil, isString]
    exact .nil
  | wrapped opens _ closes ih =>
    simp only [brackets_append, brackets_cons, brackets_nil, opens, closes]
    exact ih.enclosed

/-- A token that stands in no access by text. -/
def standsOutside (kind : TokenKind) : Bool :=
  !Screening.endsValue kind && kind ≠ .lbracket && kind ≠ .lparen

theorem IsTextAccess.not_mem (h : IsTextAccess n w) (outside : standsOutside t.kind = true) :
    t ∉ w := by
  have excluded : ∀ kind, standsOutside kind = true → Screening.endsValue kind = false ∧
      kind ≠ .lbracket ∧ kind ≠ .lparen := by
    intro kind
    simp [standsOutside, and_assoc]
  obtain ⟨noValue, notSquare, notRound⟩ := excluded _ outside
  obtain ⟨ends, opens, wraps, closes⟩ := h
  have parts := wraps.kind
  intro member
  simp only [List.mem_cons, List.mem_append, List.not_mem_nil, or_false] at member
  rcases member with rfl | rfl | member | rfl
  · rw [ends] at noValue
    cases noValue
  · exact notSquare opens
  · rcases parts t member with kind | kind | kind
    · rw [kind] at noValue
      cases noValue
    · exact notRound kind
    · rw [kind] at noValue
      cases noValue
  · rw [closes] at noValue
    cases noValue

theorem AccessesByText.mono (h : AccessesByText ts) (within : ts <:+: us) : AccessesByText us := by
  obtain ⟨n, w, access, stretch⟩ := h
  exact ⟨n, w, access, stretch.trans within⟩

theorem not_accessesByText_of_length_le (short : ts.length ≤ 1) : ¬AccessesByText ts := by
  rintro ⟨n, w, ⟨_, _, _, _⟩, stretch⟩
  have bound := stretch.length_le
  simp only [List.length_cons] at bound
  omega

/-- Two phrases with a token between them that stands in no access. -/
theorem accessesByText_append_cons (outside : standsOutside t.kind = true) :
    AccessesByText (ts ++ t :: us) ↔ AccessesByText ts ∨ AccessesByText us := by
  constructor
  · rintro ⟨n, w, access, stretch⟩
    have absent := access.not_mem outside
    have noPrefix : ∀ {v : List Token}, v <+: t :: us → t ∉ v → v = [] := by
      intro v isPrefix absent
      cases v with
      | nil => rfl
      | cons x v =>
        rw [List.cons_prefix_cons] at isPrefix
        exact absurd (isPrefix.1 ▸ List.mem_cons_self) absent
    rcases List.infix_append_iff.mp stretch with left | right | ⟨x, y, rfl, left, right⟩
    · exact Or.inl ⟨n, w, access, left⟩
    · rcases List.infix_cons_iff.mp right with front | behind
      · rw [noPrefix front absent] at access
        cases access
      · exact Or.inr ⟨n, w, access, behind⟩
    · have none : y = [] := noPrefix right (fun member => absent (List.mem_append_right x member))
      subst none
      rw [List.append_nil] at access
      exact Or.inl ⟨n, x, access, left.isInfix⟩
  · rintro (left | right)
    · exact left.mono (List.prefix_append ts _).isInfix
    · exact right.mono ((List.suffix_cons t us).trans (List.suffix_append ts _)).isInfix

theorem accessesByText_cons (outside : standsOutside t.kind = true) :
    AccessesByText (t :: us) ↔ AccessesByText us := by
  have none : ¬AccessesByText [] := not_accessesByText_of_length_le (by decide)
  rw [← List.nil_append (t :: us), accessesByText_append_cons outside, or_iff_right none]

/-- No access begins with a token that ends no value. -/
theorem accessesByText_cons_of_not_endsValue (noValue : Screening.endsValue t.kind = false) :
    AccessesByText (t :: us) ↔ AccessesByText us := by
  constructor
  · rintro ⟨n, w, access, stretch⟩
    rcases List.infix_cons_iff.mp stretch with front | behind
    · obtain ⟨ends, opens, wraps, closes⟩ := access
      rw [List.cons_prefix_cons] at front
      rw [front.1, noValue] at ends
      cases ends
    · exact ⟨n, w, access, behind⟩
  · intro h
    exact h.mono (List.suffix_cons t us).isInfix

/-- No access begins with a token behind which no square bracket opens. -/
theorem accessesByText_cons_cons (other : u.kind ≠ .lbracket) :
    AccessesByText (t :: u :: us) ↔ AccessesByText (u :: us) := by
  constructor
  · rintro ⟨n, w, access, stretch⟩
    rcases List.infix_cons_iff.mp stretch with front | behind
    · obtain ⟨ends, opens, wraps, closes⟩ := access
      rw [List.cons_prefix_cons, List.cons_prefix_cons] at front
      rw [front.2.1] at opens
      exact absurd opens other
    · exact ⟨n, w, access, behind⟩
  · intro h
    exact h.mono (List.suffix_cons t _).isInfix

theorem accessesByText_concat
    (none : close.kind ≠ .rbracket ∨ Bracket.Nests (brackets ts)) :
    AccessesByText (ts ++ [close]) ↔ AccessesByText ts := by
  constructor
  · rintro ⟨n, w, access, stretch⟩
    rcases List.infix_concat_iff.mp stretch with atEnd | inside
    · -- the access would end here, and without its last token it leaves a bracket open
      exfalso
      cases access with | @intro value bracket last inner ends opens wraps closes =>
      rw [← List.cons_append, ← List.cons_append] at atEnd
      rcases List.suffix_concat_iff.mp atEnd with empty | ⟨front, same, ⟨before, rfl⟩⟩
      · simp at empty
      obtain ⟨rfl, isLast⟩ := List.append_inj' same rfl
      cases isLast
      rcases none with other | nested
      · exact other closes
      · have unclosed : brackets (before ++ value :: bracket :: inner) =
            (brackets before ++ value.kind.bracket?.toList) ++
              .opening .square :: brackets inner := by
          simp [opens, TokenKind.bracket?]
        rw [unclosed] at nested
        have closes : Bracket.Closes [] _ := nested
        exact Bracket.not_closes_append_opening wraps.nests closes
    · exact ⟨n, w, access, inside⟩
  · intro h
    exact h.mono (List.prefix_append ts _).isInfix

theorem accessesByText_enclosed (opens : Screening.endsValue t.kind = false)
    (nested : Bracket.Nests (brackets ts)) :
    AccessesByText (t :: (ts ++ [close])) ↔ AccessesByText ts := by
  rw [accessesByText_cons_of_not_endsValue opens, accessesByText_concat (Or.inr nested)]

/-- The square bracket that opens in an access is its second token. -/
theorem IsTextAccess.exists_of_bracket {v : Token} (h : IsTextAccess n (v :: (ts ++ bracket :: us)))
    (opens : bracket.kind = .lbracket) :
    ∃ inner close, us = inner ++ [close] ∧ WrapsText n inner ∧ close.kind = .rbracket := by
  generalize split : v :: (ts ++ bracket :: us) = w at h
  cases h with | @intro value second close inner _ _ wraps closes =>
  obtain ⟨_, split⟩ := List.cons.inj split
  cases ts with
  | nil => exact ⟨inner, close, (List.cons.inj split).2, wraps, closes⟩
  | cons x ts =>
    exfalso
    have member : bracket ∈ inner ++ [close] := by
      rw [← (List.cons.inj split).2]
      simp
    rcases List.mem_append.mp member with within | last
    · have kind := wraps.kind bracket within
      simp [opens] at kind
    · rw [List.mem_singleton.mp last, closes] at opens
      cases opens

/-- Nested tokens that begin with a text in brackets and a closing bracket end with it. -/
theorem WrapsText.eq_of_isPrefix {last : Token} (h : WrapsText n ts) (closes : last.kind = .rbracket)
    (nested : Bracket.Nests (brackets us)) (within : ts ++ [last] <+: us ++ [close]) : us = ts := by
  obtain ⟨rest, split⟩ := within
  rcases List.eq_nil_or_concat rest with rfl | ⟨rest, e, rfl⟩
  · rw [List.append_nil] at split
    exact (List.append_inj' split rfl).1.symm
  · rw [List.concat_eq_append, ← List.append_assoc] at split
    obtain ⟨rfl, _⟩ := List.append_inj' split rfl
    have closing : brackets (ts ++ [last] ++ rest) =
        brackets ts ++ .closing .square :: brackets rest := by
      simp [closes, TokenKind.bracket?]
    rw [closing] at nested
    exact absurd nested (Bracket.not_nests_append_closing h.nests)

/-- A value and an index behind it: the access that they make, or one in either. -/
theorem accessesByText_index (value : Screening.endsValue t.kind = true)
    (opens : bracket.kind = .lbracket) (nested : Bracket.Nests (brackets us))
    (closes : close.kind = .rbracket) :
    AccessesByText ((ts ++ [t]) ++ bracket :: (us ++ [close])) ↔
      (AccessesByText (ts ++ [t]) ∨ AccessesByText us) ∨ ∃ n, WrapsText n us := by
  have noValue : Screening.endsValue bracket.kind = false := by
    rw [opens]
    rfl
  have enclosed : AccessesByText (bracket :: (us ++ [close])) ↔ AccessesByText us :=
    accessesByText_enclosed noValue nested
  constructor
  · rintro ⟨n, w, access, stretch⟩
    rcases List.infix_append_iff.mp stretch with left | right | ⟨x, y, rfl, left, right⟩
    · exact Or.inl (Or.inl ⟨n, w, access, left⟩)
    · exact Or.inl (Or.inr (enclosed.mp ⟨n, w, access, right⟩))
    · cases y with
      | nil =>
        rw [List.append_nil] at access
        exact Or.inl (Or.inl ⟨n, x, access, left.isInfix⟩)
      | cons b y =>
        cases x with
        | nil =>
          rw [List.nil_append] at access
          exact Or.inl (Or.inr (enclosed.mp ⟨n, _, access, right.isInfix⟩))
        | cons v x =>
          obtain ⟨rfl, within⟩ := List.cons_prefix_cons.mp right
          obtain ⟨inner, last, rfl, wraps, isLast⟩ := access.exists_of_bracket opens
          rw [← wraps.eq_of_isPrefix isLast nested within] at wraps
          exact Or.inr ⟨n, wraps⟩
  · rintro ((left | right) | ⟨n, wraps⟩)
    · exact left.mono (List.prefix_append _ _).isInfix
    · exact (enclosed.mpr right).mono (List.suffix_append _ _).isInfix
    · refine ⟨n, t :: bracket :: (us ++ [close]), ⟨value, opens, wraps, closes⟩, ?_⟩
      rw [List.append_assoc, List.singleton_append]
      exact (List.suffix_append ts _).isInfix

end Stretches

/-! ### Phrases -/

namespace Grammar

variable {c : Category} {ts : List Token} {t : Token} {e : Expr} {n k : Nat}

theorem standsOutside_of_operator? {level : Level} {op : BinaryOp}
    (h : level.operator? t.kind = some op) : standsOutside t.kind = true := by
  generalize t.kind = kind at h
  unfold Level.operator? at h
  split at h <;> first | rfl | cases h

theorem standsOutside_of_unaryOperator? {op : UnaryOp} (h : unaryOperator? t.kind = some op) :
    standsOutside t.kind = true := by
  generalize t.kind = kind at h
  unfold unaryOperator? at h
  split at h <;> first | rfl | cases h

theorem standsOutside_of_kind {kind : TokenKind} (h : t.kind = kind)
    (outside : standsOutside kind = true) : standsOutside t.kind = true := by
  rwa [h]

theorem endsValue_of_writes {value : Literal} (h : t.Writes value) :
    Screening.endsValue t.kind = true := by
  cases h with
  | integer kind _ | decimal kind _ | text kind | true kind | false kind | null kind
  | undefined kind | nan kind | infinity kind =>
    rw [kind]
    rfl

/-- What can be accessed ends with a token that ends a value. -/
theorem Derives.exists_concat (h : Derives .access ts e n) :
    ∃ us last, ts = us ++ [last] ∧ Screening.endsValue last.kind = true := by
  cases h with
  | primary body =>
    cases body with
    | literal writes => exact ⟨[], _, rfl, endsValue_of_writes writes⟩
    | identifier isName => exact ⟨[], _, rfl, by rw [isName]; rfl⟩
    | parenthesised _ _ closes => exact ⟨_ :: _, _, rfl, by rw [closes]; rfl⟩
    | array _ _ closes => exact ⟨_ :: _, _, rfl, by rw [closes]; rfl⟩
  | @call space dot name paren _ ts _ _ _ _ _ _ inside closes =>
    exact ⟨space :: dot :: name :: paren :: ts, _, rfl, by rw [closes]; rfl⟩
  | @member ts dot name _ _ _ _ isName =>
    exact ⟨ts ++ [dot], name, by simp, by rw [isName]; rfl⟩
  | @index ts is bracket close _ _ _ _ _ _ _ closes =>
    exact ⟨ts ++ bracket :: is, close, by simp, by rw [closes]; rfl⟩

/-! #### Text literals -/

theorem WrapsText.derives (h : WrapsText k ts) :
    ∃ content n, Derives .expr ts (.literal (.text content)) n := by
  induction h with
  | bare isString =>
    exact ⟨_, _, derives_expr_of_power (.base (.primary (.literal (.text isString))))⟩
  | wrapped opens _ closes ih =>
    obtain ⟨content, n, inside⟩ := ih
    exact ⟨content, _, derives_expr_of_power (.base (.primary (.parenthesised opens inside closes)))⟩

/-- A phrase that writes a text literal is this literal in round brackets. -/
theorem Derives.exists_wrapsText {content : String} (h : Derives c ts e n)
    (isText : e = .literal (.text content)) : ∃ k, WrapsText k ts := by
  induction h with
  | expr _ ih | condition _ ih | operand _ ih | power _ ih | base _ ih | primary _ ih =>
    exact ih isText
  | parenthesised opens _ closes ih =>
    obtain ⟨k, wraps⟩ := ih isText
    exact ⟨k + 1, .wrapped opens wraps closes⟩
  | literal writes =>
    cases isText
    cases writes with
    | text isString => exact ⟨0, .bare isString⟩
  | _ => cases isText

theorem Derives.isText_iff (h : Derives .expr ts e n) :
    (∃ content, e = .literal (.text content)) ↔ ∃ k, WrapsText k ts := by
  constructor
  · rintro ⟨content, isText⟩
    exact h.exists_wrapsText isText
  · rintro ⟨k, wraps⟩
    obtain ⟨content, m, phrase⟩ := WrapsText.derives wraps
    exact ⟨content, h.unique phrase⟩

/-! #### Accesses -/

/-- **Something is accessed by a text literal exactly where the tokens show it.** -/
theorem Derives.indexesByText_iff (h : Derives c ts e n) :
    e.IndexesByText ↔ AccessesByText ts := by
  induction h with
  | expr _ ih | condition _ ih | operand _ ih | power _ ih | base _ ih | primary _ ih
  | list _ ih => exact ih
  | conditional _ asks _ parts _ condition thenBranch elseBranch =>
    rw [Expr.indexesByText_conditional, condition, thenBranch, elseBranch,
      accessesByText_append_cons (standsOutside_of_kind asks rfl),
      accessesByText_append_cons (standsOutside_of_kind parts rfl)]
  | binary _ operator _ left right =>
    rw [Expr.indexesByText_binary, left, right,
      accessesByText_append_cons (standsOutside_of_operator? operator)]
  | unary operator _ operand =>
    rw [Expr.indexesByText_unary, operand,
      accessesByText_cons (standsOutside_of_unaryOperator? operator)]
  | pow _ raises _ base exponent =>
    rw [Expr.indexesByText_binary, base, exponent,
      accessesByText_append_cons (standsOutside_of_kind raises rfl)]
  | @call space dot name paren close ts _ _ _ isDot _ opens inside _ ih =>
    have outside := standsOutside_of_kind isDot rfl
    have noSpace : ¬AccessesByText [space] := not_accessesByText_of_length_le le_rfl
    have notSquare : paren.kind ≠ .lbracket := by
      rw [opens]
      decide
    rw [Expr.indexesByText_call, ih, ← List.singleton_append (x := space),
      accessesByText_append_cons outside, or_iff_right noSpace, accessesByText_cons_cons notSquare,
      accessesByText_enclosed (by rw [opens]; rfl) inside.nests]
  | @member ts dot name _ _ _ isDot _ target =>
    have noName : ¬AccessesByText [name] := not_accessesByText_of_length_le le_rfl
    rw [Expr.indexesByText_member, target,
      accessesByText_append_cons (standsOutside_of_kind isDot rfl), or_iff_left noName]
  | index target opens place closes onTarget onPlace =>
    obtain ⟨us, last, rfl, value⟩ := target.exists_concat
    rw [Expr.indexesByText_index, onTarget, onPlace, place.isText_iff,
      accessesByText_index value opens place.nests closes]
  | literal _ =>
    exact iff_of_false (Expr.not_indexesByText_literal _) (not_accessesByText_of_length_le le_rfl)
  | identifier _ =>
    exact iff_of_false (Expr.not_indexesByText_identifier _)
      (not_accessesByText_of_length_le le_rfl)
  | parenthesised opens inside _ ih | array opens inside _ ih =>
    rw [accessesByText_enclosed (by rw [opens]; rfl) inside.nests, ih]
  | item _ only => simp only [Expr.indexesByText_array, List.mem_singleton, exists_eq_left, only]
  | cons _ parts _ first others =>
    rw [accessesByText_append_cons (standsOutside_of_kind parts rfl), ← first, ← others]
    simp only [Expr.indexesByText_array, List.mem_cons, exists_eq_or_imp]
  | empty =>
    refine iff_of_false ?_ (not_accessesByText_of_length_le (by decide))
    simp [Expr.indexesByText_array]

end Grammar

/-! ### Screened tokens -/

namespace Screening

variable {before : Option TokenKind} {ts us body w : List Token} {t : Token} {last : Nat}

/-- Of screened tokens none is forbidden between its neighbours. -/
theorem forbiddenToken?_eq_none_of_screenTokens
    (h : screenTokens before (ts ++ t :: us) = none) :
    forbiddenToken? ((ts.getLast?.map Token.kind).or before) t (us.head?.map Token.kind) = none := by
  induction ts generalizing before with
  | nil =>
    rw [List.nil_append, screenTokens] at h
    split at h
    · cases h
    · next passed => exact passed
  | cons u ts ih =>
    rw [List.cons_append, screenTokens] at h
    split at h
    · cases h
    · have passed := ih h
      cases ts with
      | nil => exact passed
      | cons x ts =>
        rw [List.getLast?_cons_cons]
        cases found : (x :: ts).getLast? with
        | none => simp at found
        | some y => simpa [found] using passed

theorem not_isTextAccess_zero_of_screenTokens (h : screenTokens none ts = none)
    (stretch : w <:+: ts) : ¬IsTextAccess 0 w := by
  intro access
  obtain ⟨front, back, split⟩ := stretch
  cases access with | @intro value bracket close inner ends opens wraps closes =>
  cases wraps with | @bare t isString =>
  have around : ts = (front ++ [value]) ++ bracket :: (t :: close :: back) := by
    simp [← split]
  rw [around] at h
  have passed := forbiddenToken?_eq_none_of_screenTokens h
  simp [forbiddenToken?, opens, statement?, ends, isString] at passed

end Screening

/-! ### Checked expressions -/

/-- **A text literal is an index exactly where it stands in round brackets.**  The checks refuse a
    string literal right behind the bracket that opens the index, and nothing else: a checked
    expression accesses something by a text literal if and only if its tokens show a value and in
    square brackets behind it a string literal in one pair of round brackets or more. -/
theorem checkExpression_indexesByText_iff {settings : Settings} {source : String}
    {ts : List Token} {e : Expr} (checked : checkExpression settings (.text source) = .ok e)
    (tokenized : tokenize source = .ok ts) :
    (∃ target content, Expr.Occurs (.index target (.literal (.text content))) e) ↔
      ∃ n w, IsTextAccess (n + 1) w ∧ w <:+: ts := by
  obtain ⟨text, us, shape, again, screened, parsed, _⟩ := checkExpression_eq_ok_iff.mp checked
  cases (expressionText_eq_ok_iff.mp shape).1
  rw [tokenized] at again
  cases again
  obtain ⟨body, last, _, rfl, _, phrase⟩ := exists_phrase_of_parseTokens tokenized parsed
  have shown : e.IndexesByText ↔ AccessesByText (body ++ [Token.eof last]) := by
    rw [accessesByText_concat (Or.inr phrase.nests)]
    exact phrase.indexesByText_iff
  refine shown.trans ⟨?_, ?_⟩
  · rintro ⟨n, w, access, stretch⟩
    cases n with
    | zero => exact absurd access (Screening.not_isTextAccess_zero_of_screenTokens screened stretch)
    | succ n => exact ⟨n, w, access, stretch⟩
  · rintro ⟨n, w, access, stretch⟩
    exact ⟨n + 1, w, access, stretch⟩

/-- The access to an element passes, and so does the one by a text behind it. -/
theorem checkExpression_indexesByText_iff_nested :
    ∃ ts e, checkExpression {} (.text "rows[0][(('id'))]") = .ok e ∧
      tokenize "rows[0][(('id'))]" = .ok ts ∧
      ∃ target content, Expr.Occurs (.index target (.literal (.text content))) e := by
  have tokenized : tokenize "rows[0][(('id'))]" = .ok [⟨.ident, "rows", 0⟩, ⟨.lbracket, "[", 4⟩,
      ⟨.int, "0", 5⟩, ⟨.rbracket, "]", 6⟩, ⟨.lbracket, "[", 7⟩, ⟨.lparen, "(", 8⟩,
      ⟨.lparen, "(", 9⟩, ⟨.string, "id", 10⟩, ⟨.rparen, ")", 14⟩, ⟨.rparen, ")", 15⟩,
      ⟨.rbracket, "]", 16⟩, Token.eof 17] :=
    Except.eq_ok_of_toOption_eq_some (by decide +kernel)
  have shape : expressionText {} (.text "rows[0][(('id'))]") = .ok "rows[0][(('id'))]" :=
    expressionText_eq_ok_iff.mpr ⟨rfl, by decide, by decide, by decide⟩
  have checked : checkExpression {} (.text "rows[0][(('id'))]") =
      .ok (.index (.index (.identifier "rows") (.literal (.number 0)))
        (.literal (.text "id"))) :=
    checkExpression_eq_ok_iff.mpr
      ⟨_, _, shape, tokenized, by decide +kernel, rfl, by decide +kernel⟩
  refine ⟨_, _, checked, tokenized, (checkExpression_indexesByText_iff checked tokenized).mpr ?_⟩
  have wraps : WrapsText 2 [⟨.lparen, "(", 8⟩, ⟨.lparen, "(", 9⟩, ⟨.string, "id", 10⟩,
      ⟨.rparen, ")", 14⟩, ⟨.rparen, ")", 15⟩] := .wrapped rfl (.wrapped rfl (.bare rfl) rfl) rfl
  have access : IsTextAccess 2 [⟨.rbracket, "]", 6⟩, ⟨.lbracket, "[", 7⟩, ⟨.lparen, "(", 8⟩,
      ⟨.lparen, "(", 9⟩, ⟨.string, "id", 10⟩, ⟨.rparen, ")", 14⟩, ⟨.rparen, ")", 15⟩,
      ⟨.rbracket, "]", 16⟩] := .intro rfl rfl wraps rfl
  exact ⟨1, _, access, [⟨.ident, "rows", 0⟩, ⟨.lbracket, "[", 4⟩, ⟨.int, "0", 5⟩],
    [Token.eof 17], rfl⟩

/-- Round brackets take the text past the checks. -/
theorem checkExpression_wrappedText :
    checkExpression {} (.text "a[('length')]") =
        .ok (.index (.identifier "a") (.literal (.text "length"))) ∧
      checkExpression {} (.text "a['length']") =
        .error (.error (.forbidden .bracketAccess (some 1))) := by
  have tokenized : tokenize "a[('length')]" = .ok [⟨.ident, "a", 0⟩, ⟨.lbracket, "[", 1⟩,
      ⟨.lparen, "(", 2⟩, ⟨.string, "length", 3⟩, ⟨.rparen, ")", 11⟩, ⟨.rbracket, "]", 12⟩,
      Token.eof 13] :=
    Except.eq_ok_of_toOption_eq_some (by decide +kernel)
  have tokenized' : tokenize "a['length']" = .ok [⟨.ident, "a", 0⟩, ⟨.lbracket, "[", 1⟩,
      ⟨.string, "length", 2⟩, ⟨.rbracket, "]", 10⟩, Token.eof 11] :=
    Except.eq_ok_of_toOption_eq_some (by decide +kernel)
  have shape : expressionText {} (.text "a[('length')]") = .ok "a[('length')]" :=
    expressionText_eq_ok_iff.mpr ⟨rfl, by decide, by decide, by decide⟩
  have shape' : expressionText {} (.text "a['length']") = .ok "a['length']" :=
    expressionText_eq_ok_iff.mpr ⟨rfl, by decide, by decide, by decide⟩
  constructor
  · exact checkExpression_eq_ok_iff.mpr
      ⟨_, _, shape, tokenized, by decide +kernel, rfl, by decide +kernel⟩
  · have screened : screenedTokens "a['length']" = .error (.forbidden .bracketAccess (some 1)) := by
      rw [screenedTokens, tokenized']
      rfl
    rw [checkExpression, shape']
    simp [screened, bind, Except.bind, Except.mapError]

end FormEngine
