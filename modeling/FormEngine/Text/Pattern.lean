/-
  FormEngine/Text/Pattern.lean
  ============================
  **Patterns** that a whole text matches or not.

  A pattern is a sequence of pieces: one given character, or a run of at least one
  character of a class.  A text matches if it can be cut into pieces that fit; a
  run may end at any place where the rest still fits.
-/

namespace FormEngine.Text

/-- A piece of a pattern. -/
inductive Piece where
  /-- This character. -/
  | char (c : Char)
  /-- At least one character of the class. -/
  | run (inClass : Char → Bool)

/-- The whole text can be cut into the pieces of the pattern. -/
def matchesPattern : List Piece → List Char → Bool
  | [], s => s.isEmpty
  | _ :: _, [] => false
  | .char d :: pieces, c :: s => c == d && matchesPattern pieces s
  | .run inClass :: pieces, c :: s =>
    inClass c && (matchesPattern pieces s || matchesPattern (.run inClass :: pieces) s)

@[simp] theorem matchesPattern_nil (s : List Char) : matchesPattern [] s = true ↔ s = [] := by
  simp [matchesPattern]

/-- A text matches a pattern that begins with a character if it begins with that character and
    the rest matches. -/
theorem matchesPattern_char (d : Char) (pieces : List Piece) (s : List Char) :
    matchesPattern (.char d :: pieces) s = true ↔
      ∃ rest, s = d :: rest ∧ matchesPattern pieces rest = true := by
  cases s with
  | nil => simp [matchesPattern]
  | cons c s => simp [matchesPattern, and_assoc]

/-- A text matches a pattern that begins with a run if a non-empty front of it lies in the class
    and the rest matches. -/
theorem matchesPattern_run (inClass : Char → Bool) (pieces : List Piece) (s : List Char) :
    matchesPattern (.run inClass :: pieces) s = true ↔
      ∃ front rest, s = front ++ rest ∧ front ≠ [] ∧ (∀ c ∈ front, inClass c = true) ∧
        matchesPattern pieces rest = true := by
  induction s with
  | nil =>
    simp only [matchesPattern, Bool.false_eq_true, false_iff]
    rintro ⟨front, rest, h, hne, _⟩
    cases front with
    | nil => exact hne rfl
    | cons c front => simp at h
  | cons c s ih =>
    simp only [matchesPattern, Bool.and_eq_true, Bool.or_eq_true, ih]
    constructor
    · rintro ⟨hc, h | ⟨front, rest, rfl, _, hfront, h⟩⟩
      · exact ⟨[c], s, rfl, by simp, by simpa using hc, h⟩
      · refine ⟨c :: front, rest, rfl, by simp, ?_, h⟩
        intro x hx
        rcases List.mem_cons.mp hx with rfl | hx
        · exact hc
        · exact hfront x hx
    · rintro ⟨front, rest, h, hne, hfront, hrest⟩
      cases front with
      | nil => exact absurd rfl hne
      | cons x front =>
        simp only [List.cons_append, List.cons.injEq] at h
        obtain ⟨rfl, rfl⟩ := h
        refine ⟨hfront c (by simp), ?_⟩
        cases front with
        | nil => exact Or.inl hrest
        | cons y front =>
          exact Or.inr ⟨y :: front, rest, rfl, by simp,
            fun z hz => hfront z (List.mem_cons_of_mem _ hz), hrest⟩

end FormEngine.Text
