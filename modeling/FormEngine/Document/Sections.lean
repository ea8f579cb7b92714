/-
  FormEngine/Document/Sections.lean
  =================================
  **Reading sectioned documents**, the form of settings files on the command line.

  A line is blank, a heading `[name]` that opens a section, or an entry
  `key = value`; each may end with a comment after `#`.  Entries before the first
  heading belong to the document itself.  A value is a quoted text, an integer, a
  number with a point or an exponent, a truth value, or a list of values, which
  may run over several lines.  No key and no section may come twice.  Dates, tables
  in braces, sections in sections and texts of several lines are malformed here.
-/
import FormEngine.Document.Reader

namespace FormEngine.Document.Sections

/-! ### Lines -/

def isBlank (c : Char) : Bool := c == ' ' || c == '\t'

/-- A control character, which may stand neither in a text nor in a comment; a tab may. -/
def isControl (c : Char) : Bool := (c.toNat < 0x20 && c != '\t') || c.toNat == 0x7F

def skipBlanks (s : List Char) : List Char := s.dropWhile isBlank

/-- Skips a comment, if there is one. -/
def skipComment : List Char → Except DocumentFault (List Char)
  | '#' :: s =>
    if (s.takeWhile (· != '\n')).any isControl then .error .malformed
    else .ok (s.dropWhile (· != '\n'))
  | s => .ok s

/-- Reads the end of a line after blanks and a comment. -/
def endOfLine (s : List Char) : Except DocumentFault (List Char) := do
  match ← skipComment (skipBlanks s) with
  | [] => return []
  | '\n' :: rest => return rest
  | _ => .error .malformed

/-- Skips blanks, ends of lines and comments between the elements of a list. -/
def skipLines : (fuel : Nat) → List Char → Except DocumentFault (List Char)
  | 0, s => .ok s
  | fuel + 1, s => do
    match ← skipComment (s.dropWhile (fun c => isBlank c || c == '\n')) with
    | '\n' :: rest => skipLines fuel rest
    | rest => return rest

/-! ### Texts and keys -/

/-- The character whose code point hexadecimal digits write. -/
def codePoint? (digits : List Char) : Option Char :=
  match digits.mapM (fun c => Text.baseDigit? 16 c.toLower) with
  | some values =>
    let n := Text.valueInBase 16 values
    if n.isValidChar then some (Char.ofNat n) else none
  | none => none

/-- Reads the rest of a text in double quotes. -/
def quotedText : List Char → Except DocumentFault (List Char × List Char)
  | [] => .error .malformed
  | '\x22' :: s => .ok ([], s)
  | '\\' :: 'u' :: a :: b :: c :: d :: s => do
    let some char := codePoint? [a, b, c, d] | .error .malformed
    let (content, rest) ← quotedText s
    return (char :: content, rest)
  | '\\' :: 'U' :: a :: b :: c :: d :: e :: f :: g :: h :: s => do
    let some char := codePoint? [a, b, c, d, e, f, g, h] | .error .malformed
    let (content, rest) ← quotedText s
    return (char :: content, rest)
  | '\\' :: c :: s => do
    let some char := (escapedChar? c).filter (· != '/') | .error .malformed
    let (content, rest) ← quotedText s
    return (char :: content, rest)
  | c :: s =>
    if c = '\\' ∨ isControl c then .error .malformed
    else do
      let (content, rest) ← quotedText s
      return (c :: content, rest)

/-- Reads the rest of a text in single quotes, which knows no escapes. -/
def literalText (s : List Char) : Except DocumentFault (List Char × List Char) :=
  let content := s.takeWhile (· != '\x27')
  match s.drop content.length with
  | '\x27' :: rest => if content.any isControl then .error .malformed else .ok (content, rest)
  | _ => .error .malformed

def isKeyChar (c : Char) : Bool := c.isAlphanum || c == '_' || c == '-'

/-- Reads a key: a bare word or a quoted text. -/
def key : List Char → Except DocumentFault (String × List Char)
  | '\x22' :: s => do
    let (content, rest) ← quotedText s
    return (String.ofList content, rest)
  | '\x27' :: s => do
    let (content, rest) ← literalText s
    return (String.ofList content, rest)
  | s =>
    match s.takeWhile isKeyChar with
    | [] => .error .malformed
    | word => .ok (String.ofList word, s.drop word.length)

/-! ### Numbers -/

/-- Digits behind a digit, each of them perhaps behind a mark, and the rest. -/
def spanAfterDigit (isDigit : Char → Bool) : List Char → List Char × List Char
  | [] => ([], [])
  | '_' :: c :: s =>
    if isDigit c then (c :: (spanAfterDigit isDigit s).1, (spanAfterDigit isDigit s).2)
    else ([], '_' :: c :: s)
  | c :: s =>
    if isDigit c then (c :: (spanAfterDigit isDigit s).1, (spanAfterDigit isDigit s).2)
    else ([], c :: s)

/-- The digits at the front of a text without the marks between them, and the rest. -/
def spanMarkedDigits (isDigit : Char → Bool) : List Char → List Char × List Char
  | [] => ([], [])
  | c :: s =>
    if isDigit c then (c :: (spanAfterDigit isDigit s).1, (spanAfterDigit isDigit s).2)
    else ([], c :: s)

/-- The base that a numeral names in front of its digits. -/
def namedBase? (c : Char) : Option Nat :=
  if c = 'x' then some 16 else if c = 'o' then some 8 else if c = 'b' then some 2 else none

/-- The value of a digit in a base, letters in either case. -/
def digitIn? (base : Nat) (c : Char) : Option Nat := Text.baseDigit? base c.toLower

/-- Reads a numeral that names its base. -/
def inNamedBase? : List Char → Option (Value × List Char)
  | '0' :: mark :: s =>
    match namedBase? mark with
    | some base =>
      match spanMarkedDigits (fun c => (digitIn? base c).isSome) s with
      | ([], _) => none
      | (digits, rest) =>
        some (.int (Text.valueInBase base (digits.filterMap (digitIn? base))), rest)
    | none => none
  | _ => none

/-- Reads a number in decimal. -/
def decimalNumber : List Char → Except DocumentFault (Value × List Char)
  | '-' :: unsigned => unsignedNumber (spanMarkedDigits Char.isDigit) true unsigned
  | '+' :: unsigned => unsignedNumber (spanMarkedDigits Char.isDigit) false unsigned
  | s => unsignedNumber (spanMarkedDigits Char.isDigit) false s

/-- Reads a number. -/
def number (s : List Char) : Except DocumentFault (Value × List Char) :=
  match inNamedBase? s with
  | some found => .ok found
  | none => decimalNumber s

/-! ### Values -/

/-- The bare words that are no numerals. -/
def words : List (String × Value) :=
  [("true", .bool true), ("false", .bool false),
   ("inf", .float (.infinite false)), ("+inf", .float (.infinite false)),
   ("-inf", .float (.infinite true)),
   ("nan", .float .nan), ("+nan", .float .nan), ("-nan", .float .nan)]

mutual

/-- Reads a value. -/
def value : (fuel : Nat) → List Char → Except DocumentFault (Value × List Char)
  | 0, _ => .error .malformed
  | fuel + 1, s =>
    match s with
    | '\x22' :: rest => do
      let (content, rest) ← quotedText rest
      return (.text (String.ofList content), rest)
    | '\x27' :: rest => do
      let (content, rest) ← literalText rest
      return (.text (String.ofList content), rest)
    | '[' :: inside => do
      let (vs, rest) ← elements fuel inside
      return (.list (.read 0 inside.length) vs, rest)
    | s => wordOrNumber words number s

/-- Reads the elements of a list up to its closing bracket; a comma may end the last one. -/
def elements : (fuel : Nat) → List Char → Except DocumentFault (List Value × List Char)
  | 0, _ => .error .malformed
  | fuel + 1, s => do
    match ← skipLines s.length s with
    | ']' :: rest => return ([], rest)
    | s =>
      let (v, rest) ← value fuel s
      match ← skipLines rest.length rest with
      | ']' :: rest => return ([v], rest)
      | ',' :: rest => do
        let (vs, rest) ← elements fuel rest
        return (v :: vs, rest)
      | _ => .error .malformed

end

/-! ### Documents -/

/-- What has been read: the document so far, and the section that entries go into. -/
structure Progress where
  contents : Record Value := []
  open? : Option String := none

namespace Progress

/-- Opens a section. -/
def opened (p : Progress) (name : String) : Except DocumentFault Progress :=
  if p.contents.has name then .error .malformed
  else
    .ok { contents := p.contents.set name (.mapping (.read 1 p.contents.length) [])
          open? := some name }

/-- The entries of the open section. -/
def current (p : Progress) : Record Value :=
  match p.open? with
  | none => p.contents
  | some name =>
    match p.contents.get? name with
    | some (.mapping _ entries) => entries
    | _ => []

/-- Puts an entry into the open section. -/
def entered (p : Progress) (key : String) (v : Value) : Except DocumentFault Progress :=
  if p.current.has key then .error .malformed
  else
    match p.open? with
    | none => .ok { p with contents := p.contents.set key v }
    | some name =>
      match p.contents.get? name with
      | some (.mapping i entries) =>
        .ok { p with contents := p.contents.set name (.mapping i (Record.set entries key v)) }
      | _ => .error .malformed

end Progress

/-- Reads a heading after its opening bracket. -/
def heading (p : Progress) (s : List Char) : Except DocumentFault (Progress × List Char) := do
  let (name, rest) ← key (skipBlanks s)
  match skipBlanks rest with
  | ']' :: rest => return (← p.opened name, rest)
  | _ => .error .malformed

/-- Reads the key of an entry and the sign after it. -/
def label (s : List Char) : Except DocumentFault (String × List Char) := do
  let (name, rest) ← key s
  match skipBlanks rest with
  | '=' :: rest => return (name, skipBlanks rest)
  | _ => .error .malformed

/-- Nothing but a comment is left of the line. -/
def isLineEnd (s : List Char) : Bool := s.head?.all (fun c => c == '\n' || c == '#')

/-- Reads one line. -/
def line (p : Progress) (s : List Char) : Except DocumentFault (Progress × List Char) :=
  match skipBlanks s with
  | '[' :: s => heading p s
  | s =>
    if isLineEnd s then .ok (p, s)
    else do
      let (name, rest) ← label s
      let (v, rest) ← value (2 * rest.length + 2) rest
      return (← p.entered name v, rest)

/-- Reads lines until the document ends; `fuel` bounds their number. -/
def lines : (fuel : Nat) → Progress → List Char → Except DocumentFault Progress
  | _, p, [] => .ok p
  | 0, _, _ :: _ => .error .malformed
  | fuel + 1, p, s => do
    let (p, rest) ← line p s
    let rest ← endOfLine rest
    lines fuel p rest

/-- The entries of a document; a section is an entry that is a mapping. -/
def read (text : String) : Except DocumentFault (Record Value) := do
  return (← lines (text.length + 1) {} text.toList).contents

end FormEngine.Document.Sections
