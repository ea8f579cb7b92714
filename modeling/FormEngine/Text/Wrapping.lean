/-
  FormEngine/Text/Wrapping.lean
  =============================
  **Breaking texts into lines** of a limited number of columns.

  A line is filled with whole words, each with the blanks after it, as long as the
  words themselves fit.  A word that is longer than a line starts on a new line;
  what becomes of it is the `Overflow`: it is cut into pieces that fit, or it stays
  on that line and its end gives way to an ellipsis.  Line feeds always end a line.
-/
import FormEngine.Text.Grapheme
import FormEngine.Text.Word

namespace FormEngine.Text

/-- What becomes of a word that is longer than a line. -/
inductive Overflow where
  /-- It goes on in the next lines. -/
  | fold
  /-- It ends with an ellipsis. -/
  | ellipsis
deriving DecidableEq, Repr

/-! ### Filling lines -/

/-- Cuts graphemes behind a line that takes `taken` columns into pieces that fit. -/
def chopped (width : Nat) (line : List Char) (taken : Nat) : List Grapheme → List (List Char)
  | [] => [line]
  | g :: rest =>
    if width < taken + g.columns then line :: chopped width g.chars g.columns rest
    else chopped width (line ++ g.chars) (taken + g.columns) rest

/-- Fills lines with words behind a line whose words take `taken` columns. -/
def filled (overflow : Overflow) (width : Nat) (line : List Char) (taken : Nat) :
    List (List Char) → List (List Char)
  | [] => [line]
  | word :: rest =>
    let needed := columns (trimRight word)
    let before := if line.isEmpty then [] else [line]
    if taken + needed ≤ width then
      filled overflow width (line ++ word) (taken + columns word) rest
    else if width < needed ∧ overflow = .fold then
      let pieces := chopped width [] 0 (graphemes word)
      let last := pieces.getLast?.getD []
      before ++ pieces.dropLast ++ filled overflow width last (columns last) rest
    else before ++ filled overflow width word (columns word) rest

/-- Drops blanks from the end of a line that has more than `width` characters, as many as it has
    too many. -/
def croppedEnd (width : Nat) (line : List Char) : List Char :=
  let blanks := line.length - (trimRight line).length
  line.take (line.length - min blanks (line.length - width))

/-- The mark that stands for the rest of a text. -/
def ellipsis : Char := '…'

/-- The beginning of a line that is too wide. -/
def shortened (overflow : Overflow) (width : Nat) (line : List Char) : List Char :=
  if columns line ≤ width then line
  else
    match overflow with
    | .fold => sized width line
    | .ellipsis => sized (width - 1) line ++ [ellipsis]

/-! ### Lines and tabs -/

/-- The parts of a text between the characters that end a line. -/
def linesBetween (ends : Char → Bool) : List Char → List (List Char)
  | [] => [[]]
  | c :: s =>
    if ends c then [] :: linesBetween ends s
    else
      match linesBetween ends s with
      | first :: rest => (c :: first) :: rest
      | [] => [[c]]

/-- A character that ends a line wherever lines are told apart by more than line feeds. -/
def endsLine (c : Char) : Bool :=
  inRanges [(0x0A, 0x0D), (0x1C, 0x1E), (0x85, 0x85), (0x2028, 0x2029)] c.toNat

/-- The distance between tab stops. -/
def tabStop : Nat := 8

/-- A line behind `column` columns and the text `part` since the last tab, latest character
    first, with blanks up to the next tab stop for each tab. -/
def untabbedFrom (column : Nat) (part : List Char) : List Char → List Char
  | [] => part.reverse
  | c :: s =>
    if c = '\t' then
      let part := (' ' :: part).reverse
      let column := column + columns part
      let gap := (tabStop - column % tabStop) % tabStop
      part ++ spaces gap ++ untabbedFrom (column + gap) [] s
    else untabbedFrom column (c :: part) s

/-- A line with blanks for its tabs. -/
def untabbed (line : List Char) : List Char := untabbedFrom 0 [] line

/-! ### Placing lines -/

/-- Where a line stands among the columns it is given. -/
inductive Alignment where
  /-- At their beginning, with nothing behind it. -/
  | ragged
  /-- At their beginning, with blanks behind it. -/
  | left
  /-- In their middle, without its own blanks at the end. -/
  | centre
deriving DecidableEq, Repr

/-- The line with blanks behind it, up to a number of columns. -/
def paddedRight (width : Nat) (line : List Char) : List Char :=
  line ++ spaces (width - columns line)

/-- The line in its place among `width` columns. -/
def placed (overflow : Overflow) (width : Nat) : Alignment → List Char → List Char
  | .ragged, line => shortened overflow width line
  | .left, line => paddedRight width (shortened overflow width line)
  | .centre, line =>
    let core := shortened overflow width (trimRight line)
    paddedRight width (spaces ((width - columns core) / 2) ++ core)

/-- The lines of a text in `width` columns. -/
def wrapped (overflow : Overflow) (alignment : Alignment) (width : Nat) (s : List Char) :
    List (List Char) :=
  (linesBetween (· == '\n') s).flatMap fun line =>
    (filled overflow width [] 0 (words (untabbed line))).map fun line =>
      placed overflow width alignment (croppedEnd width line)

end FormEngine.Text
