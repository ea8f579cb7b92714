/-
  FormEngine/Text/Emoji.lean
  ==========================
  **Emoji by name**: `:smile:` in a text for the terminal stands for a picture.

  A code is a name between two colons with no blank in between.  It may end with
  `-text` or `-emoji`, which asks for one of the two ways to draw the character.
  The case of the letters does not matter, and a name that is not known stays as it
  is written.
-/
import FormEngine.Text.Case
import FormEngine.Text.EmojiTable
import FormEngine.Text.Numeral
import FormEngine.Text.Word

namespace FormEngine.Text

/-! ### Names -/

/-- The characters whose code points are written in hexadecimal, joined by hyphens, behind the
    number `n`. -/
def codePointsFrom (n : Nat) : List Char → List Char
  | [] => [Char.ofNat n]
  | c :: s =>
    if c = '-' then Char.ofNat n :: codePointsFrom 0 s
    else codePointsFrom (16 * n + (baseDigit? 16 c.toLower).getD 0) s

/-- The entry under a name in a sequence of names and entries. -/
def entryNamed? (name : List Char) : List (List Char) → Option (List Char)
  | key :: entry :: rest => if key = name then some entry else entryNamed? name rest
  | _ => none

/-- The emoji of a name. -/
def emojiNamed? (name : List Char) : Option (List Char) :=
  (entryNamed? name (bareWords emojiTable.toList)).map (codePointsFrom 0)

/-! ### Codes -/

/-- The ways to draw an emoji that a code may ask for, with their variation selectors. -/
def drawings : List (List Char × Char) :=
  [("-emoji".toList, '\uFE0F'), ("-text".toList, '\uFE0E')]

/-- What is drawn for the code with this content. -/
def drawnCode? (content : List Char) : Option (List Char) :=
  match drawings.find? (fun d => d.1.isSuffixOf content) with
  | some (ending, selector) =>
    (emojiNamed? (lower (content.take (content.length - ending.length)))).map (· ++ [selector])
  | none => emojiNamed? (lower content)

/-- The content of the code whose first colon stands before the text. -/
def code? (s : List Char) : Option (List Char) :=
  let content := s.takeWhile (fun c => c ≠ ':' ∧ !isBlank c)
  match s.drop content.length with
  | ':' :: _ => some content
  | _ => none

/-- The text behind `skipped` characters of a code, with emoji for its codes. -/
def withEmojiFrom (skipped : Nat) : List Char → List Char
  | [] => []
  | c :: s =>
    match skipped with
    | skipped + 1 => withEmojiFrom skipped s
    | 0 =>
      if c = ':' then
        match code? s with
        | none => ':' :: withEmojiFrom 0 s
        | some content =>
          (drawnCode? content).getD (':' :: content ++ [':'])
            ++ withEmojiFrom (content.length + 1) s
      else c :: withEmojiFrom 0 s

/-- The text with emoji for its codes. -/
def withEmoji (s : List Char) : List Char := withEmojiFrom 0 s

end FormEngine.Text
