/-
  FormEngine/Text/Style.lean
  ==========================
  **Styles** of texts for the terminal.

  A style is written as words: attributes such as `bold`, each also with `not` before
  it, a colour, `on` and the colour of the background, `link` and an address.
  Attributes have short forms, and the order of the words does not matter, so one
  style can be written in many ways; `Style.text` is the one way in which two
  writings are compared.
-/
import FormEngine.Record
import FormEngine.Text.Case
import FormEngine.Text.Numeral
import FormEngine.Text.Word

namespace FormEngine.Text

/-! ### Colours -/

/-- The colours that have names. -/
def colourNames : String := "
  black red green yellow blue magenta cyan white bright_black bright_red bright_green
  bright_yellow bright_blue bright_magenta bright_cyan bright_white grey0 gray0 navy_blue
  dark_blue blue3 blue1 dark_green deep_sky_blue4 dodger_blue3 dodger_blue2 green4 spring_green4
  turquoise4 deep_sky_blue3 dodger_blue1 green3 spring_green3 dark_cyan light_sea_green
  deep_sky_blue2 deep_sky_blue1 spring_green2 cyan3 dark_turquoise turquoise2 green1 spring_green1
  medium_spring_green cyan2 cyan1 dark_red deep_pink4 purple4 purple3 blue_violet orange4 grey37
  gray37 medium_purple4 slate_blue3 royal_blue1 chartreuse4 dark_sea_green4 pale_turquoise4
  steel_blue steel_blue3 cornflower_blue chartreuse3 cadet_blue sky_blue3 steel_blue1 pale_green3
  sea_green3 aquamarine3 medium_turquoise chartreuse2 sea_green2 sea_green1 aquamarine1
  dark_slate_gray2 dark_magenta dark_violet purple light_pink4 plum4 medium_purple3 slate_blue1
  yellow4 wheat4 grey53 gray53 light_slate_grey light_slate_gray medium_purple light_slate_blue
  dark_olive_green3 dark_sea_green light_sky_blue3 sky_blue2 dark_sea_green3 dark_slate_gray3
  sky_blue1 chartreuse1 light_green pale_green1 dark_slate_gray1 red3 medium_violet_red magenta3
  dark_orange3 indian_red hot_pink3 medium_orchid3 medium_orchid medium_purple2 dark_goldenrod
  light_salmon3 rosy_brown grey63 gray63 medium_purple1 gold3 dark_khaki navajo_white3 grey69
  gray69 light_steel_blue3 light_steel_blue yellow3 dark_sea_green2 light_cyan3 light_sky_blue1
  green_yellow dark_olive_green2 dark_sea_green1 pale_turquoise1 deep_pink3 magenta2 hot_pink2
  orchid medium_orchid1 orange3 light_pink3 pink3 plum3 violet light_goldenrod3 tan misty_rose3
  thistle3 plum2 khaki3 light_goldenrod2 light_yellow3 grey84 gray84 light_steel_blue1 yellow2
  dark_olive_green1 honeydew2 light_cyan1 red1 deep_pink2 deep_pink1 magenta1 orange_red1
  indian_red1 hot_pink dark_orange salmon1 light_coral pale_violet_red1 orchid2 orchid1 orange1
  sandy_brown light_salmon1 light_pink1 pink1 plum1 gold1 navajo_white1 misty_rose1 thistle1
  yellow1 light_goldenrod1 khaki1 wheat1 cornsilk1 grey100 gray100 grey3 gray3 grey7 gray7 grey11
  gray11 grey15 gray15 grey19 gray19 grey23 gray23 grey27 gray27 grey30 gray30 grey35 gray35
  grey39 gray39 grey42 gray42 grey46 gray46 grey50 gray50 grey54 gray54 grey58 gray58 grey62
  gray62 grey66 gray66 grey70 gray70 grey74 gray74 grey78 gray78 grey82 gray82 grey85 gray85
  grey89 gray89 grey93 gray93"

/-- Why a style cannot be read. -/
inductive StyleFault where
  /-- A word means nothing where it stands. -/
  | unknown
  /-- A part of a colour is empty where a number should be. -/
  | missingNumber
deriving DecidableEq, Repr

/-- The text between `opening` and a closing bracket at its end. -/
def argument? (opening : List Char) (word : List Char) : Option (List Char) :=
  let inside := (word.drop opening.length).dropLast
  if opening.isPrefixOf word && word.getLast? == some ')' then some inside else none

/-- Checks the parts of a colour that is written as three numbers. -/
def checkParts (parts : List (List Char)) : Except StyleFault Unit :=
  if parts.length ≠ 3 then .error .unknown
  else if parts.any (·.isEmpty) then .error .missingNumber
  else if parts.all (fun p => decide (decimalValue p ≤ 255)) then .ok ()
  else .error .unknown

/-- The parts of a text between commas. -/
def commaParts : List Char → List (List Char)
  | [] => [[]]
  | c :: s =>
    if c = ',' then [] :: commaParts s
    else
      match commaParts s with
      | first :: rest => (c :: first) :: rest
      | [] => [[c]]

/-- Checks that a word in lower case is a colour: a name, `#` and six hexadecimal digits, the
    number of a colour, or the parts of red, green and blue. -/
def checkColour (word : List Char) : Except StyleFault Unit :=
  if word = "default".toList ∨ (bareWords colourNames.toList).contains word then .ok ()
  else if word.head? = some '#' then
    if word.length = 7 ∧ (word.drop 1).all (fun c => (baseDigit? 16 c).isSome) then .ok ()
    else .error .unknown
  else
    match argument? "color(".toList word with
    | some digits =>
      if digits.length ∈ [1, 2, 3] ∧ digits.all (·.isDigit) ∧ decimalValue digits ≤ 255 then .ok ()
      else .error .unknown
    | none =>
      match argument? "rgb(".toList word with
      | some inside =>
        if inside ≠ [] ∧ inside.all (fun c => isDecimalDigit c || c == ',') then
          checkParts (commaParts inside)
        else .error .unknown
      | none => .error .unknown

/-! ### Styles -/

structure Style where
  attributes : Record Bool := []
  colour : Option (List Char) := none
  background : Option (List Char) := none
  link : Option (List Char) := none

namespace Style

/-- The attributes, in the order in which they are written. -/
def attributeNames : List String :=
  ["bold", "dim", "italic", "underline", "blink", "blink2", "reverse", "conceal", "strike",
   "underline2", "frame", "encircle", "overline"]

/-- The short forms of attributes. -/
def shortForms : Record String :=
  [("b", "bold"), ("d", "dim"), ("i", "italic"), ("u", "underline"), ("r", "reverse"),
   ("c", "conceal"), ("s", "strike"), ("uu", "underline2"), ("o", "overline")]

/-- The attribute that a word names. -/
def attribute? (word : List Char) : Option String :=
  let w := String.ofList word
  if attributeNames.contains w then some w else shortForms.get? w

/-- Reads the words of a style behind others. -/
def read (style : Style) : List (List Char) → Except StyleFault Style
  | [] => .ok style
  | word :: rest =>
    let w := lower word
    if w = "on".toList then
      match rest with
      | [] => .error .unknown
      | colour :: rest => do
        checkColour (lower colour)
        read { style with background := some (lower colour) } rest
    else if w = "not".toList then
      match rest with
      | [] => .error .unknown
      | word :: rest =>
        match attribute? word with
        | some a => read { style with attributes := style.attributes.set a false } rest
        | none => .error .unknown
    else if w = "link".toList then
      match rest with
      | [] => .error .unknown
      | address :: rest => read { style with link := some address } rest
    else
      match attribute? w with
      | some a => read { style with attributes := style.attributes.set a true } rest
      | none => do
        checkColour w
        read { style with colour := some w } rest

/-- The words of a style: attributes in their order, then the colours and the link. -/
def words (s : Style) : List (List Char) :=
  attributeNames.flatMap (fun a =>
    match s.attributes.get? a with
    | some true => [a.toList]
    | some false => ["not".toList, a.toList]
    | none => [])
    ++ s.colour.toList
    ++ (s.background.map (fun c => ["on".toList, c])).getD []
    ++ (s.link.map (fun a => ["link".toList, a])).getD []

/-- The style as text. -/
def text (s : Style) : List Char :=
  match s.words with
  | [] => "none".toList
  | words => List.intercalate [' '] words

end Style

/-- The text by which a style is compared with others.  What cannot be read as a style is taken
    as it is, in lower case; nothing results when a number is missing in it. -/
def styleText? (s : List Char) : Option (List Char) :=
  if trim s = "none".toList then some "none".toList
  else
    match Style.read {} (bareWords s) with
    | .ok style => some style.text
    | .error .unknown => some (lower (trim s))
    | .error .missingNumber => none

end FormEngine.Text
