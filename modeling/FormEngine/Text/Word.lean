/-
  FormEngine/Text/Word.lean
  =========================
  **Words**: what stands between the blanks of a text.
-/
import FormEngine.Text.Blank

namespace FormEngine.Text

/-- The first word with the blanks around it, and the rest. -/
def nextWord (s : List Char) : List Char × List Char :=
  let lead := s.takeWhile isBlank
  let afterLead := s.dropWhile isBlank
  let core := afterLead.takeWhile (fun c => !isBlank c)
  let afterCore := afterLead.dropWhile (fun c => !isBlank c)
  (lead ++ core ++ afterCore.takeWhile isBlank, afterCore.dropWhile isBlank)

/-- The words of a text, each with the blanks after it, the first also with those before it;
    `fuel` bounds their number. -/
def wordsUpTo : (fuel : Nat) → List Char → List (List Char)
  | 0, _ => []
  | fuel + 1, s =>
    if s.isEmpty then []
    else
      let (word, rest) := nextWord s
      word :: wordsUpTo fuel rest

/-- The words of a text with their blanks. -/
def words (s : List Char) : List (List Char) := wordsUpTo s.length s

/-- The words of a text without blanks. -/
def bareWords (s : List Char) : List (List Char) :=
  ((words s).map trim).filter (fun w => !w.isEmpty)

end FormEngine.Text
