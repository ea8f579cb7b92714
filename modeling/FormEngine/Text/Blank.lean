/-
  FormEngine/Text/Blank.lean
  ==========================
  **Blank characters** and trimming.

  A character is blank when Unicode lists it as white space or when it is one of
  the four information separators U+001C … U+001F.  Every place of the engine
  that skips, strips or collapses space uses this one class: the lexer of
  expressions, the reading of numbers from text, the emptiness test of a form
  value, the variable name made from a label.

  Texts are worked on as lists of characters; `trim` cuts blanks at both ends,
  `collapse` writes one given character for each run of blanks.
-/

namespace FormEngine.Text

/-! ### The class -/

/-- Closed ranges of code points, ascending and apart. -/
def blankRanges : List (Nat × Nat) :=
  [(0x09, 0x0D), (0x1C, 0x20), (0x85, 0x85), (0xA0, 0xA0), (0x1680, 0x1680),
   (0x2000, 0x200A), (0x2028, 0x2029), (0x202F, 0x202F), (0x205F, 0x205F), (0x3000, 0x3000)]

/-- The code point lies in one of the ranges. -/
def inRanges (ranges : List (Nat × Nat)) (n : Nat) : Bool :=
  ranges.any (fun r => decide (r.1 ≤ n) && decide (n ≤ r.2))

/-- White space, or an information separator. -/
def isBlank (c : Char) : Bool := inRanges blankRanges c.toNat

/-! ### Trimming -/

/-- The text from its first non-blank character on. -/
def trimLeft (s : List Char) : List Char := s.dropWhile isBlank

/-- The text up to its last non-blank character. -/
def trimRight (s : List Char) : List Char := (s.reverse.dropWhile isBlank).reverse

/-- The text without the blanks at its two ends. -/
def trim (s : List Char) : List Char := trimRight (trimLeft s)

/-- Nothing is left of the text when blanks are trimmed. -/
def isBlankText (s : List Char) : Bool := s.all isBlank

/-- Each run of blanks becomes the single character `c`. -/
def collapse (c : Char) : List Char → List Char
  | [] => []
  | a :: s =>
    if isBlank a then
      match s with
      | [] => [c]
      | b :: _ => if isBlank b then collapse c s else c :: collapse c s
    else a :: collapse c s

theorem trimLeft_cons_of_not_blank {c : Char} (h : isBlank c = false) (s : List Char) :
    trimLeft (c :: s) = c :: s := by
  simp [trimLeft, h]

theorem trimLeft_cons_of_blank {c : Char} (h : isBlank c = true) (s : List Char) :
    trimLeft (c :: s) = trimLeft s := by
  simp [trimLeft, h]

/-- A text is trimmed to nothing exactly when all its characters are blank. -/
theorem trim_eq_nil_iff (s : List Char) : trim s = [] ↔ isBlankText s = true := by
  have left : ∀ t : List Char, t.dropWhile isBlank = [] ↔ ∀ c ∈ t, isBlank c = true := by
    intro t
    induction t with
    | nil => simp
    | cons c t ih =>
      by_cases h : isBlank c = true
      · simp [List.dropWhile, h, ih]
      · simp [List.dropWhile, h]
  have inside : ∀ t : List Char, (∀ c ∈ t.dropWhile isBlank, isBlank c = true) →
      ∀ c ∈ t, isBlank c = true := by
    intro t
    induction t with
    | nil => simp
    | cons c t ih =>
      by_cases h : isBlank c = true
      · simp only [List.dropWhile, h]
        intro all d hd
        rcases List.mem_cons.mp hd with rfl | hd
        · exact h
        · exact ih all d hd
      · simp [List.dropWhile, h]
  simp only [trim, trimRight, trimLeft, isBlankText, List.reverse_eq_nil_iff, List.all_eq_true]
  rw [left]
  constructor
  · intro h
    refine inside s (fun c hc => h c (List.mem_reverse.mpr hc))
  · intro h c hc
    exact h c (List.dropWhile_sublist (l := s) isBlank |>.mem (List.mem_reverse.mp hc))

end FormEngine.Text
