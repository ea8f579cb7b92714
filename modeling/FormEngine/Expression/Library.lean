/-
  FormEngine/Expression/Library.lean
  ==================================
  **The functions and constants that an expression can reach.**

  Three namespaces, `Math`, `String` and `Number`, are all that can be called.  A
  function takes values, converts them as the operators do, and returns a number,
  a text or a boolean.  A missing argument counts as NaN where a number is wanted
  and as the text `undefined` where a text is wanted.
-/
import FormEngine.Text.Case
import FormEngine.Value.Conversion

namespace FormEngine

/-- A function of the library. -/
inductive Builtin where
  | abs | ceil | floor | max | min | round | pow | sqrt
  | concat | toLowerCase | toUpperCase | trim | substring
  | parseFloat | parseInt | isNaN
deriving DecidableEq, Repr

namespace Library

/-! ### What is exposed -/

/-- Each namespace with its functions, in the order in which they are listed. -/
def spaces : List (String × List (String × Builtin)) :=
  [("Math", [("abs", .abs), ("ceil", .ceil), ("floor", .floor), ("max", .max), ("min", .min),
     ("round", .round), ("pow", .pow), ("sqrt", .sqrt)]),
   ("String", [("concat", .concat), ("toLowerCase", .toLowerCase),
     ("toUpperCase", .toUpperCase), ("trim", .trim), ("substring", .substring)]),
   ("Number", [("parseFloat", .parseFloat), ("parseInt", .parseInt), ("isNaN", .isNaN)])]

/-- The binary64 number nearest to π. -/
def pi : Binary64 := .ofParts false 0x1921FB54442D18 (-51)

/-- The binary64 number nearest to Euler's number. -/
def euler : Binary64 := .ofParts false 0x15BF0A8B145769 (-51)

/-- Each namespace that has constants, with its constants. -/
def constants : List (String × List (String × Binary64)) :=
  [("Math", [("PI", pi), ("E", euler)])]

/-- The name is that of a namespace. -/
def isSpace (name : String) : Bool := (spaces.lookup name).isSome

/-- A function by namespace and name. -/
def function? (space name : String) : Option Builtin :=
  (spaces.lookup space).bind (·.lookup name)

/-- A constant by namespace and name. -/
def constant? (space name : String) : Option Binary64 :=
  (constants.lookup space).bind (·.lookup name)

/-- The names of all functions, namespace by namespace. -/
def available : List (String × List String) :=
  spaces.map (fun s => (s.1, s.2.map (·.1)))

/-! ### Arguments -/

/-- An argument as a number. -/
def numberArgument (args : List Value) (i : Nat) : Except NumeralError Number :=
  match args[i]? with
  | none => .ok Number.nan
  | some v => v.toNumber

/-- An argument as a text. -/
def textArgument (args : List Value) (i : Nat) : Except NumeralError String :=
  match args[i]? with
  | none => .ok "undefined"
  | some v => v.toText

/-- An argument that may be left out, or be null to the same effect. -/
def optionalArgument (args : List Value) (i : Nat) : Option Value :=
  match args[i]? with
  | none | some .null => none
  | some v => some v

/-- All arguments as numbers. -/
def numbers (args : List Value) : Except NumeralError (List Number) :=
  args.mapM Value.toNumber

/-! ### Numbers -/

/-- The extreme of the numbers in the order `before`, the first one of several; NaN if one of
    them is NaN, and `none_` if there are none. -/
def extreme (before : Number → Number → Bool) (none_ : Number) (xs : List Number) : Number :=
  if xs.any Number.isNaN then Number.nan
  else
    match xs with
    | [] => none_
    | x :: rest => rest.foldl (fun best y => if before best y then y else best) x

/-- The greatest number, minus infinity if there is none. -/
def maximum (xs : List Number) : Number := extreme Number.less (Number.infinity true) xs

/-- The least number, infinity if there is none. -/
def minimum (xs : List Number) : Number :=
  extreme (fun x y => y.less x) (Number.infinity false) xs

/-! ### Texts -/

/-- A number as a position in a text of a given length. -/
def clampedIndex (x : Number) (length : Nat) : Nat :=
  match x.extent? with
  | none => 0
  | some .below => 0
  | some .above => length
  | some (.at q) => min (Binary64.truncated q).toNat length

/-- The characters between two positions, which may come in either order. -/
def between (s : List Char) (i j : Nat) : List Char :=
  let low := min i j
  let high := max i j
  (s.take high).drop low

def substring (args : List Value) : Except NumeralError String := do
  let s := (← textArgument args 0).toList
  let start := clampedIndex (← numberArgument args 1) s.length
  let stop ←
    match optionalArgument args 2 with
    | none => pure s.length
    | some v => do pure (clampedIndex (← v.toNumber) s.length)
  return String.ofList (between s start stop)

/-! ### Reading integers -/

/-- The text begins with the mark of a hexadecimal numeral. -/
def hasHexMark : List Char → Bool
  | '0' :: c :: _ => c == 'x' || c == 'X'
  | _ => false

/-- The base that is asked for; zero stands for none. -/
def requestedBase (args : List Value) : Except NumeralError Int :=
  match optionalArgument args 1 with
  | none => .ok 0
  | some v => do return (← v.toNumber).truncated?.getD 0

/-- The base to read in and the text that is left to read, given the base asked for. -/
def baseAndText (requested : Int) (s : List Char) : Int × List Char :=
  if requested = 0 then
    if hasHexMark s then (16, s.drop 2) else (10, s)
  else if requested = 16 && hasHexMark s then (16, s.drop 2)
  else (requested, s)

/-- The values of the digits at the front of a text. -/
def leadingDigits (base : Nat) : List Char → List Nat
  | [] => []
  | c :: s =>
    match Text.baseDigit? base c with
    | some d => d :: leadingDigits base s
    | none => []

def parseInt (args : List Value) : Except NumeralError Number := do
  let (sign, unsigned) := DecimalLiteral.spanSign (Text.trim (← textArgument args 0).toList)
  let (base, s) := baseAndText (← requestedBase args) unsigned
  if base < 2 ∨ 36 < base then return Number.nan
  let digits := leadingDigits base.toNat (Text.lower s)
  if digits.isEmpty then return Number.nan
  let n : Int ← Text.readInBase base.toNat digits
  return (Number.int (if sign = ['-'] then -n else n)).normalise

/-! ### Application -/

/-- The value of a function at its arguments. -/
def apply (f : Builtin) (args : List Value) : Except NumeralError Value :=
  match f with
  | .abs => do return .number (← numberArgument args 0).abs
  | .ceil => do return .number (← numberArgument args 0).ceil
  | .floor => do return .number (← numberArgument args 0).floor
  | .max => do return .number (maximum (← numbers args))
  | .min => do return .number (minimum (← numbers args))
  | .round => do return .number (← numberArgument args 0).round
  | .pow => do
    let base ← numberArgument args 0
    return .number (base.pow (← numberArgument args 1))
  | .sqrt => do return .number (← numberArgument args 0).sqrt
  | .concat => do return .text (String.join (← args.mapM Value.toText))
  | .toLowerCase => do
    return .text (String.ofList (Text.lower (← textArgument args 0).toList))
  | .toUpperCase => do
    return .text (String.ofList (Text.upper (← textArgument args 0).toList))
  | .trim => do return .text (String.ofList (Text.trim (← textArgument args 0).toList))
  | .substring => do return .text (← substring args)
  | .parseFloat => do return .number (Number.ofFront (← textArgument args 0))
  | .parseInt => do return .number (← parseInt args)
  | .isNaN => do return .bool (← numberArgument args 0).isNaN

end Library

end FormEngine
