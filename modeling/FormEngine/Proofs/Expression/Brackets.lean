/-
  FormEngine/Proofs/Expression/Brackets.lean
  ==========================================
  **Nested brackets.**

  `Bracket.Nests` says of a sequence of round and square brackets that it is nested
  correctly, without a stack: it is empty, or it consists of a pair of one shape
  around a nested sequence and another nested sequence behind.  A scan meets such
  sequences with some brackets still open, so `Bracket.Closes` says the same of a
  sequence that closes given brackets on its way.  What its first bracket does to
  them (`closes_opening`, `closes_closing`) is also how nesting is decided.

  The brackets of every phrase of the grammar are nested (`Grammar.Derives.nests`):
  each production either joins phrases or puts a pair around one.
-/
import FormEngine.Proofs.Expression.Grammar

namespace FormEngine

/-! ### Brackets -/

inductive BracketShape where
  | round
  | square
deriving DecidableEq, Repr

inductive Bracket where
  | opening (shape : BracketShape)
  | closing (shape : BracketShape)
deriving DecidableEq, Repr

/-- The bracket that a kind of tokens is, if it is one. -/
def TokenKind.bracket? : TokenKind → Option Bracket
  | .lparen => some (.opening .round)
  | .rparen => some (.closing .round)
  | .lbracket => some (.opening .square)
  | .rbracket => some (.closing .square)
  | _ => none

/-- The brackets among the tokens, in order. -/
def brackets (ts : List Token) : List Bracket := ts.filterMap (fun t => t.kind.bracket?)

section Tokens

variable {t : Token} {ts us : List Token}

@[simp] theorem brackets_nil : brackets [] = [] := rfl

@[simp] theorem brackets_append : brackets (ts ++ us) = brackets ts ++ brackets us :=
  List.filterMap_append

@[simp] theorem brackets_cons :
    brackets (t :: ts) = t.kind.bracket?.toList ++ brackets ts := by
  cases found : t.kind.bracket? <;> simp [brackets, found]

end Tokens

/-! ### Nesting -/

namespace Bracket

variable {shape : BracketShape} {due : List BracketShape} {bs cs : List Bracket}

/-- Every bracket that opens is closed by one of its shape, with nested brackets between. -/
inductive Nests : List Bracket → Prop
  | nil : Nests []
  | pair {shape : BracketShape} {bs cs : List Bracket} (inside : Nests bs) (behind : Nests cs) :
      Nests (.opening shape :: (bs ++ .closing shape :: cs))

theorem Nests.append (h : Nests bs) (h' : Nests cs) : Nests (bs ++ cs) := by
  induction h with
  | nil => exact h'
  | pair inside _ _ ih =>
    rw [List.cons_append, List.append_assoc, List.cons_append]
    exact .pair inside ih

theorem Nests.enclosed (h : Nests bs) : Nests (.opening shape :: (bs ++ [.closing shape])) :=
  .pair h .nil

/-- The brackets close those that are due, the first one first, and are nested otherwise. -/
def Closes : List BracketShape → List Bracket → Prop
  | [], bs => Nests bs
  | shape :: due, bs =>
    ∃ inside behind, bs = inside ++ .closing shape :: behind ∧ Nests inside ∧ Closes due behind

theorem closes_nil : Closes due [] ↔ due = [] := by
  cases due with
  | nil => exact ⟨fun _ => rfl, fun _ => .nil⟩
  | cons shape due =>
    constructor
    · rintro ⟨inside, behind, split, _⟩
      simp at split
    · intro h
      cases h

/-- A bracket that opens makes one more due. -/
theorem closes_opening : Closes due (.opening shape :: bs) ↔ Closes (shape :: due) bs := by
  cases due with
  | nil =>
    constructor
    · intro h
      cases h with
      | pair inside behind => exact ⟨_, _, rfl, inside, behind⟩
    · rintro ⟨inside, behind, rfl, nested, rest⟩
      exact .pair nested rest
  | cons outer due =>
    constructor
    · rintro ⟨inside, behind, split, nested, rest⟩
      cases nested with
      | nil => simp at split
      | @pair _ cs ds within after =>
        obtain ⟨same, rfl⟩ := List.cons.inj split
        cases same
        exact ⟨cs, ds ++ .closing outer :: behind, by simp, within, ds, behind, rfl, after, rest⟩
    · rintro ⟨cs, _, rfl, within, ds, behind, rfl, after, rest⟩
      exact ⟨.opening shape :: (cs ++ .closing shape :: ds), behind, by simp, .pair within after,
        rest⟩

/-- A bracket closes only what is due first. -/
theorem closes_closing :
    Closes due (.closing shape :: bs) ↔ ∃ rest, due = shape :: rest ∧ Closes rest bs := by
  cases due with
  | nil =>
    constructor
    · intro h
      cases h
    · rintro ⟨_, same, _⟩
      cases same
  | cons first due =>
    constructor
    · rintro ⟨inside, behind, split, nested, rest⟩
      cases nested with
      | nil =>
        obtain ⟨same, rfl⟩ := List.cons.inj split
        cases same
        exact ⟨due, rfl, rest⟩
      | pair _ _ => cases split
    · rintro ⟨_, same, rest⟩
      cases same
      exact ⟨[], bs, rfl, .nil, rest⟩

/-- Nested brackets in front leave what is due as it is. -/
theorem closes_append_of_nests (h : Nests bs) : Closes due (bs ++ cs) ↔ Closes due cs := by
  induction h generalizing due cs with
  | nil => rfl
  | pair _ _ inside behind =>
    rw [List.cons_append, List.append_assoc, List.cons_append, closes_opening, inside,
      closes_closing]
    constructor
    · rintro ⟨rest, same, closes⟩
      cases same
      exact behind.mp closes
    · intro closes
      exact ⟨due, rfl, behind.mpr closes⟩

/-- Nothing closes a bracket that has only nested brackets behind it. -/
theorem not_closes_append_opening (h : Nests cs) : ¬Closes due (bs ++ .opening shape :: cs) := by
  induction bs generalizing due with
  | nil =>
    rw [List.nil_append, closes_opening, ← List.append_nil cs, closes_append_of_nests h,
      closes_nil]
    exact List.cons_ne_nil shape due
  | cons b bs ih =>
    cases b with
    | opening other =>
      rw [List.cons_append, closes_opening]
      exact ih
    | closing other =>
      rw [List.cons_append, closes_closing]
      rintro ⟨rest, _, closes⟩
      exact ih closes

/-- Nothing opens a bracket that has only nested brackets before it. -/
theorem not_nests_append_closing (h : Nests bs) : ¬Nests (bs ++ .closing shape :: cs) := by
  intro nests
  have closes : Closes [] (.closing shape :: cs) := (closes_append_of_nests h).mp nests
  obtain ⟨rest, same, _⟩ := closes_closing.mp closes
  cases same

instance decidableCloses : (due : List BracketShape) → (bs : List Bracket) →
    Decidable (Closes due bs)
  | due, [] => decidable_of_iff (due = []) closes_nil.symm
  | due, .opening shape :: bs =>
    have : Decidable (Closes (shape :: due) bs) := decidableCloses (shape :: due) bs
    decidable_of_iff (Closes (shape :: due) bs) closes_opening.symm
  | [], .closing _ :: _ => .isFalse (fun h => by simp [closes_closing] at h)
  | first :: due, .closing shape :: bs =>
    have : Decidable (Closes due bs) := decidableCloses due bs
    decidable_of_iff (first = shape ∧ Closes due bs) (by simp [closes_closing])

instance : DecidablePred Nests := decidableCloses []

example : ¬Nests [.opening .round, .opening .square, .closing .round, .closing .square] := by
  decide

end Bracket

/-! ### Brackets of phrases -/

namespace Grammar

variable {c : Category} {ts : List Token} {t : Token} {e : Expr} {n : Nat}

theorem bracket?_of_writes {value : Literal} (h : t.Writes value) : t.kind.bracket? = none := by
  cases h with
  | integer kind _ | decimal kind _ | text kind | true kind | false kind | null kind
  | undefined kind | nan kind | infinity kind =>
    rw [kind]
    rfl

theorem bracket?_of_operator? {level : Level} {op : BinaryOp}
    (h : level.operator? t.kind = some op) : t.kind.bracket? = none := by
  generalize t.kind = kind at h
  unfold Level.operator? at h
  split at h <;> first | rfl | cases h

theorem bracket?_of_unaryOperator? {op : UnaryOp} (h : unaryOperator? t.kind = some op) :
    t.kind.bracket? = none := by
  generalize t.kind = kind at h
  unfold unaryOperator? at h
  split at h <;> first | rfl | cases h

theorem Derives.nests (h : Derives c ts e n) : Bracket.Nests (brackets ts) := by
  induction h with
  | expr _ ih => exact ih
  | condition _ ih => exact ih
  | conditional _ asks _ parts _ condition thenBranch elseBranch =>
    simp only [brackets_append, brackets_cons, asks, parts]
    exact condition.append (thenBranch.append elseBranch)
  | operand _ ih => exact ih
  | binary _ operator _ left right =>
    simp only [brackets_append, brackets_cons, bracket?_of_operator? operator]
    exact left.append right
  | power _ ih => exact ih
  | unary operator _ operand =>
    simp only [brackets_cons, bracket?_of_unaryOperator? operator]
    exact operand
  | base _ ih => exact ih
  | pow _ raises _ base exponent =>
    simp only [brackets_append, brackets_cons, raises]
    exact base.append exponent
  | primary _ ih => exact ih
  | call isSpace isDot isName opens _ closes inside =>
    simp only [brackets_append, brackets_cons, brackets_nil, isSpace, isDot, isName, opens, closes]
    exact inside.enclosed
  | member _ isDot isName target =>
    simp only [brackets_append, brackets_cons, brackets_nil, isDot, isName]
    exact target.append .nil
  | index _ opens _ closes target place =>
    simp only [brackets_append, brackets_cons, brackets_nil, opens, closes]
    exact target.append place.enclosed
  | literal writes =>
    simp only [brackets_cons, brackets_nil, bracket?_of_writes writes]
    exact .nil
  | identifier isName =>
    simp only [brackets_cons, brackets_nil, isName]
    exact .nil
  | parenthesised opens _ closes inside =>
    simp only [brackets_append, brackets_cons, brackets_nil, opens, closes]
    exact inside.enclosed
  | array opens _ closes inside =>
    simp only [brackets_append, brackets_cons, brackets_nil, opens, closes]
    exact inside.enclosed
  | item _ ih => exact ih
  | cons _ parts _ first others =>
    simp only [brackets_append, brackets_cons, parts]
    exact first.append others
  | empty => exact .nil
  | list _ ih => exact ih

end Grammar

end FormEngine
