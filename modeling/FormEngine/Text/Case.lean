/-
  FormEngine/Text/Case.lean
  =========================
  **Lower- and upper-casing** of whole texts.

  Casing is a function on texts, not on characters: `ß` becomes two characters in
  upper case, and a capital sigma has a lower-case form of its own at the end of
  a word.  A sigma is final when, looking through ignorable characters, a cased
  character stands before it and none stands after it.
-/
import FormEngine.Text.CaseTable

namespace FormEngine.Text

/-- A code point moved by a signed distance. -/
def shiftedChar (n : Nat) (shift : Int) : Char := Char.ofNat ((n : Int) + shift).toNat

/-- The image of one character under a case table; a character without an entry stays. -/
def mapCase (runs : List CaseRun) (expansions : List (Nat × List Nat)) (c : Char) : List Char :=
  match expansions.find? (fun e => e.1 == c.toNat) with
  | some e => e.2.map Char.ofNat
  | none =>
    match runs.find? (fun r => r.holds c.toNat) with
    | some r => [shiftedChar c.toNat r.shift]
    | none => [c]

/-- The nearest character that case rules do not look through has case. -/
def facesCased (s : List Char) : Bool :=
  match s.dropWhile (fun c => inRanges caseIgnorableRanges c.toNat) with
  | [] => false
  | c :: _ => inRanges casedRanges c.toNat

/-- Lower-cases the text `s` that stands after the reversed text `before`. -/
def lowerAfter (before : List Char) : List Char → List Char
  | [] => []
  | c :: s =>
    let image :=
      if c.toNat == 0x3A3 then
        if facesCased before && !facesCased s then [Char.ofNat 0x3C2] else [Char.ofNat 0x3C3]
      else mapCase lowerRuns lowerExpansions c
    image ++ lowerAfter (c :: before) s

/-- The text in lower case. -/
def lower (s : List Char) : List Char := lowerAfter [] s

/-- The text in upper case. -/
def upper (s : List Char) : List Char := s.flatMap (mapCase upperRuns upperExpansions)

end FormEngine.Text
