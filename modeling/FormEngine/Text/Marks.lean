/-
  FormEngine/Text/Marks.lean
  ==========================
  **Style marks** in texts for the terminal.

  A mark is a run of characters in square brackets that begins with a small letter,
  `#`, `@` or `/`; it sets a style or, with `/`, ends one.  `shown?` is what appears
  of a text when its marks are taken out and its codes for emoji are drawn.  A
  backslash before a mark makes the mark plain text, and `protectedText` writes a text
  so that nothing in it is a mark.
-/
import FormEngine.Text.Action
import FormEngine.Text.Emoji
import FormEngine.Text.Style

namespace FormEngine.Text

/-! ### Marks -/

/-- A character with which a mark begins. -/
def opensMark (c : Char) : Bool :=
  (decide ('a' ≤ c) && decide (c ≤ 'z')) || c == '#' || c == '@' || c == '/'

/-- The content of the mark whose opening bracket stands before the text. -/
def mark? (s : List Char) : Option (List Char) :=
  let content := s.takeWhile (fun c => c ≠ '[' ∧ c ≠ ']')
  match content, s.drop content.length with
  | c :: _, ']' :: _ => if opensMark c then some content else none
  | _, _ => none

/-- A mark whose style is set: the style, and what stood behind an equals sign. -/
structure OpenMark where
  style : List Char
  action : List Char
deriving DecidableEq, Repr

/-- The mark may end: if it attaches an action, that can be read. -/
def OpenMark.mayEnd (m : OpenMark) : Bool := m.style.head? != some '@' || isAction m.action

/-- The open marks when the latest one has ended. -/
def afterLatest? : List OpenMark → Option (List OpenMark)
  | [] => none
  | m :: earlier => if m.mayEnd then some earlier else none

/-- The open marks, latest first, when the latest one with a style has ended. -/
def afterStyle? (style : List Char) : List OpenMark → Option (List OpenMark)
  | [] => none
  | m :: earlier =>
    if m.style = style then afterLatest? (m :: earlier)
    else (afterStyle? style earlier).map (m :: ·)

/-- The open marks after a mark with this content, latest first.  Nothing results if it ends a
    mark that is not open or may not end, or if its style has a number missing. -/
def openAfter? (marks : List OpenMark) (content : List Char) : Option (List OpenMark) :=
  let name := content.takeWhile (· ≠ '=')
  match name with
  | '/' :: style =>
    if (trim style).isEmpty then afterLatest? marks
    else (styleText? (trim style)).bind (afterStyle? · marks)
  | _ => (styleText? name).map fun style => ⟨style, content.drop (name.length + 1)⟩ :: marks

/-! ### Segments -/

/-- A part of a text with marks. -/
inductive Segment where
  | plain (s : List Char)
  | mark (content : List Char)
deriving DecidableEq, Repr

def backslashes (n : Nat) : List Char := List.replicate n '\\'

/-- The segments of a text that stands behind the characters `run`, latest first, then `held`
    backslashes; of the text itself, the first `skipped` characters belong to a mark.  A backslash
    before a bracket that opens no mark is dropped; before a mark, half of the backslashes
    remain, and an odd one makes the mark plain. -/
def segmentsFrom (run : List Char) (held skipped : Nat) : List Char → List Segment
  | [] => [.plain (run.reverse ++ backslashes held)]
  | c :: s =>
    match skipped with
    | skipped + 1 => segmentsFrom run held skipped s
    | 0 =>
      if c = '\\' then segmentsFrom run (held + 1) 0 s
      else if c = '[' then
        match mark? s with
        | none => segmentsFrom ('[' :: backslashes (held - 1) ++ run) 0 0 s
        | some content =>
          let last := if held % 2 = 1 then .plain ('[' :: content ++ [']']) else .mark content
          .plain run.reverse :: .plain (backslashes (held / 2)) :: last
            :: segmentsFrom [] 0 (content.length + 1) s
      else segmentsFrom (c :: backslashes held ++ run) 0 0 s

/-- The segments of a text. -/
def segments (s : List Char) : List Segment := segmentsFrom [] 0 0 s

/-! ### What is shown -/

/-- What is shown of segments while `marks` are open: the plain ones, with emoji. -/
def shownSegments? (marks : List OpenMark) : List Segment → Option (List Char)
  | [] => some []
  | .plain s :: rest => (shownSegments? marks rest).map (withEmoji s ++ ·)
  | .mark content :: rest => (openAfter? marks content).bind (shownSegments? · rest)

/-- A control character that is never sent to the terminal. -/
def isUnsent (c : Char) : Bool := [7, 8, 11, 12, 13].contains c.toNat

/-- What appears of a text with marks; nothing if one of them is out of place. -/
def shown? (s : List Char) : Option (List Char) :=
  (shownSegments? [] (segments s)).map (·.filter (fun c => !isUnsent c))

/-! ### Protection -/

/-- Protects a text that stands behind `held` backslashes. -/
def protectedFrom (held : Nat) : List Char → List Char
  | [] => if held = 1 then ['\\'] else []
  | c :: s =>
    if c = '\\' then '\\' :: protectedFrom (held + 1) s
    else if c = '[' ∧ (mark? s).isSome then backslashes (held + 1) ++ '[' :: protectedFrom 0 s
    else c :: protectedFrom 0 s

/-- A text in which nothing is a mark.  A single backslash at the end is doubled, so that it
    does not act on a mark that follows. -/
def protectedText (s : List Char) : List Char := protectedFrom 0 s

end FormEngine.Text
