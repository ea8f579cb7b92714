/-
  FormEngine/CommandLine/Table.lean
  =================================
  **Tables drawn with lines**, for the terminal.

  A table is as wide as its contents.  If that is wider than the terminal, the
  widest columns give way first, all to the same width, and their cells are
  wrapped; a word that is wider than its column ends with an ellipsis.  The title
  stands in the middle above the table.
-/
import FormEngine.Text.Wrapping

namespace FormEngine

structure Table where
  title : String
  /-- The headings of the columns, with the alignment of their cells. -/
  heads : List (String × Text.Alignment)
  rows : List (List String)
deriving Repr

namespace Table

/-! ### Widths -/

/-- The columns that a cell takes without wrapping, with a blank on either side; at most
    `available`. -/
def cellWidth (available : Nat) (cell : String) : Nat :=
  let lines := Text.linesBetween Text.endsLine cell.toList
  min available ((lines.map Text.columns).foldl max 0 + 2)

/-- The greatest width of a cell in each column. -/
def naturalWidths (available : Nat) (t : Table) : List Nat :=
  t.rows.foldl (fun widths row => List.zipWith max widths (row.map (cellWidth available)))
    (t.heads.map (fun h => cellWidth available h.1))

/-- The nearest integer to a quotient, the even one of two. -/
def roundedQuotient (num den : Nat) : Nat :=
  let q := num / den
  let twice := 2 * (num % den)
  if twice < den ∨ (twice = den ∧ q % 2 = 0) then q else q + 1

/-- Takes a total away from the chosen widths, evenly and at most `limit` from each. -/
def reduced (limit : Nat) : (total : Nat) → List (Nat × Bool) → List Nat
  | _, [] => []
  | total, (width, chosen) :: rest =>
    if chosen then
      let share := min limit (roundedQuotient total (1 + (rest.filter (·.2)).length))
      (width - share) :: reduced limit (total - share) rest
    else width :: reduced limit total rest

/-- The widths together. -/
def total (widths : List Nat) : Nat := widths.foldl Nat.add 0

/-- Narrows the widest columns until the widths fit; `fuel` bounds the steps. -/
def narrowed (available : Nat) : (fuel : Nat) → List Nat → List Nat
  | 0, widths => widths
  | fuel + 1, widths =>
    if total widths ≤ available then widths
    else
      let widest := widths.foldl max 0
      let second := (widths.filter (· != widest)).foldl max 0
      let excess := total widths - available
      narrowed available fuel
        (reduced (min excess (widest - second)) excess
          (widths.map (fun w => (w, w == widest))))

/-- The widths of the columns in a terminal of `terminal` columns. -/
def widths (terminal : Nat) (t : Table) : List Nat :=
  let available := terminal - (t.heads.length + 1)
  let natural := t.naturalWidths available
  if total natural ≤ available then natural else narrowed available (total natural) natural

/-! ### Drawing -/

/-- The lines of a cell between its blanks.  A joiner at the end of a line takes in the first
    blank behind it, so a line is sized once more after it has been placed. -/
def cellLines (width : Nat) (alignment : Text.Alignment) (cell : String) : List (List Char) :=
  let inner := width - 2
  (Text.wrapped .ellipsis alignment inner cell.toList).map fun line =>
    ' ' :: Text.sized inner line ++ [' ']

/-- The lines of a row, its cells between `bar`s. -/
def rowLines (bar : Char) (columns : List (Nat × Text.Alignment)) (cells : List String) :
    List (List Char) :=
  let drawn := List.zipWith (fun c cell => (c.1, cellLines c.1 c.2 cell)) columns cells
  let height := (drawn.map (fun c => c.2.length)).foldl max 0
  (List.range height).map fun i =>
    bar :: (drawn.flatMap fun c => (c.2[i]?).getD (Text.spaces c.1) ++ [bar])

/-- A rule between rows. -/
def rule (left line cross right : Char) (widths : List Nat) : List Char :=
  left :: List.intercalate [cross] (widths.map (fun w => List.replicate w line)) ++ [right]

/-- The lines of the table. -/
def lines (terminal : Nat) (t : Table) : List (List Char) :=
  let widths := t.widths terminal
  let columns := List.zip widths (t.heads.map (·.2))
  let full := total widths + widths.length + 1
  Text.wrapped .fold .centre full t.title.toList
    ++ [rule '┏' '━' '┳' '┓' widths]
    ++ rowLines '┃' columns (t.heads.map (·.1))
    ++ [rule '┡' '━' '╇' '┩' widths]
    ++ t.rows.flatMap (rowLines '│' columns)
    ++ [rule '└' '─' '┴' '┘' widths]

/-- The table as text. -/
def text (terminal : Nat) (t : Table) : String :=
  String.ofList ((t.lines terminal).flatMap (fun line => line ++ ['\n']))

end Table

/-- A message in lines that fit into the terminal. -/
def messageText (terminal : Nat) (message : String) : String :=
  let lines := Text.wrapped .fold .ragged terminal message.toList
  String.ofList (lines.flatMap (fun line => line ++ ['\n']))

end FormEngine
