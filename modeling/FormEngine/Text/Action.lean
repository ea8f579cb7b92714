/-
  FormEngine/Text/Action.lean
  ===========================
  **Actions**: what a mark that begins with `@` attaches to a text.

  An action is a name, a name with arguments in parentheses, or arguments alone.
  Arguments are texts in quotes, numbers, truth values, and arguments in
  parentheses.  Nothing of an action is shown, but one that cannot be read is an
  error where its mark ends.
-/
import FormEngine.Text.Alphanumeric

namespace FormEngine.Text

/-! ### Arguments -/

def isSpace (c : Char) : Bool := c == ' ' || c == '\t' || c == '\n'

/-- A character of a name or a number. -/
def isActionChar (c : Char) : Bool := isAlphanumeric c || c == '_' || c == '.'

/-- The rest behind a text whose opening quote has been read. -/
def behindQuoted? (quote : Char) : List Char → Option (List Char)
  | [] => none
  | '\\' :: _ :: s => behindQuoted? quote s
  | c :: s => if c = quote then some s else if c = '\n' then none else behindQuoted? quote s

/-- The word is a number: an integer without needless zeros, or a decimal fraction. -/
def isArgumentNumber (w : List Char) : Bool :=
  let whole := w.takeWhile Char.isDigit
  match w.drop whole.length with
  | [] => !whole.isEmpty && (whole.head? != some '0' || whole.all (· == '0'))
  | '.' :: fraction => !(whole.isEmpty && fraction.isEmpty) && fraction.all Char.isDigit
  | _ => false

/-- The words that are values. -/
def valueWords : List (List Char) := ["True".toList, "False".toList, "None".toList]

mutual

/-- The rest behind an argument. -/
def behindArgument? : (fuel : Nat) → List Char → Option (List Char)
  | 0, _ => none
  | fuel + 1, s =>
    match s.dropWhile isSpace with
    | '(' :: s => behindArguments? fuel s
    | '\x27' :: s => behindQuoted? '\x27' s
    | '\x22' :: s => behindQuoted? '\x22' s
    | c :: s =>
      let signed := c == '+' || c == '-'
      let s := if signed then s.dropWhile isSpace else c :: s
      let w := s.takeWhile isActionChar
      if isArgumentNumber w || (!signed && valueWords.contains w) then some (s.drop w.length)
      else none
    | [] => none

/-- The rest behind arguments up to their closing parenthesis; a comma may end the last one. -/
def behindArguments? : (fuel : Nat) → List Char → Option (List Char)
  | 0, _ => none
  | fuel + 1, s =>
    match s.dropWhile isSpace with
    | ')' :: rest => some rest
    | s => do
      let rest ← behindArgument? fuel s
      match rest.dropWhile isSpace with
      | ')' :: rest => some rest
      | ',' :: rest => behindArguments? fuel rest
      | _ => none

end

/-- The text consists of arguments. -/
def areArguments (s : List Char) : Bool :=
  behindArguments? (2 * s.length + 4) (s ++ [')']) == some []

/-! ### Actions -/

/-- The text can be read as an action. -/
def isAction (s : List Char) : Bool :=
  let s := trim s
  let arguments := s.dropWhile isActionChar
  if arguments.isEmpty then true
  else if arguments.head? = some '(' ∧ arguments.getLast? = some ')' then areArguments arguments
  else areArguments s

end FormEngine.Text
