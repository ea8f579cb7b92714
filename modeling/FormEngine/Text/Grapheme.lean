/-
  FormEngine/Text/Grapheme.lean
  =============================
  **Graphemes**: the units in which a text is drawn and may be cut.

  A grapheme is a character with the characters that take no column of their own
  behind it.  A joiner draws the next character into the grapheme, and the variation
  selector for emoji widens a narrow character once.  `columns` measures a text and
  `sized` brings it to a given number of columns without cutting a grapheme.
-/
import FormEngine.Text.Columns

namespace FormEngine.Text

/-! ### Graphemes -/

/-- Characters that are drawn together, and the columns they take. -/
structure Grapheme where
  chars : List Char
  columns : Nat
deriving DecidableEq, Repr

/-- The character that joins the character before it with the one behind it. -/
def joiner : Char := '\u200D'

/-- The variation selector that has a character drawn as an emoji. -/
def widener : Char := '\uFE0F'

/-- The columns that the variation selector adds to a character. -/
def widening : Option Char → Nat
  | some c => if inRanges widenedRanges c.toNat then 1 else 0
  | none => 0

namespace Grapheme

/-- The grapheme that begins with a character. -/
def opened (c : Char) : Grapheme := ⟨[c], charColumns c⟩

/-- The grapheme with one more character, which adds some columns. -/
def extended (g : Grapheme) (c : Char) (more : Nat) : Grapheme :=
  ⟨g.chars ++ [c], g.columns + more⟩

end Grapheme

/-- The character, if it is one that a variation selector may widen. -/
def measured? (c : Char) : Option Char := if charColumns c = 0 then none else some c

/-- The graphemes of a text behind the open grapheme `g`.  `base` is the character of `g` that
    may still be widened; `joined` holds behind a joiner. -/
def graphemesFrom (g : Grapheme) (base : Option Char) (joined : Bool) : List Char → List Grapheme
  | [] => [g]
  | c :: s =>
    if joined then graphemesFrom (g.extended c 0) base false s
    else if c = joiner then graphemesFrom (g.extended c 0) base true s
    else if c = widener then graphemesFrom (g.extended c (widening base)) none false s
    else if charColumns c = 0 then graphemesFrom (g.extended c 0) base false s
    else g :: graphemesFrom (.opened c) (some c) false s

/-- The graphemes of a text. -/
def graphemes : List Char → List Grapheme
  | [] => []
  | c :: s => graphemesFrom (.opened c) (measured? c) false s

/-! ### Measuring -/

/-- The columns of graphemes. -/
def totalColumns (gs : List Grapheme) : Nat := gs.foldl (fun n g => n + g.columns) 0

/-- The columns of a text.  A joiner at its beginning joins the next character to nothing, and
    neither takes a column. -/
def columns : List Char → Nat
  | c :: d :: s => if c = joiner then columns s else totalColumns (graphemes (c :: d :: s))
  | s => totalColumns (graphemes s)

/-! ### Sizing -/

def spaces (n : Nat) : List Char := List.replicate n ' '

/-- The graphemes that fit into `width` columns; a blank stands for the half of one that does
    not. -/
def cut (width : Nat) : List Grapheme → List Char
  | [] => []
  | g :: rest =>
    if width = 0 then []
    else if g.columns ≤ width then g.chars ++ cut (width - g.columns) rest
    else [' ']

/-- The text in `width` columns: cut, or with blanks behind it. -/
def sized (width : Nat) (s : List Char) : List Char :=
  if columns s ≤ width then s ++ spaces (width - columns s) else cut width (graphemes s)

end FormEngine.Text
