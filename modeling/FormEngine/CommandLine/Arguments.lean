/-
  FormEngine/CommandLine/Arguments.lean
  =====================================
  **Reading the arguments of the command line.**

  Options may stand anywhere among the operands of a command, and before the
  command if they belong to the program as a whole.  A long option takes its value
  as the next argument or behind an equals sign, a short one as the next argument
  or right behind its letter; short options without values may be run together.
  Everything after `--` is an operand.  What does not fit is a usage error.
-/

namespace FormEngine.CommandLine

/-! ### Options -/

/-- An option: its spellings, the first of which names it, and whether a value follows. -/
structure OptionForm where
  name : String
  others : List String := []
  takesValue : Bool

/-- How arguments can fail to fit. -/
inductive UsageError where
  | unknownOption (spelling : String)
  | missingValue (option : String)
  | unexpectedValue (option : String)
  | wrongOperands (operands : List String)
  | missingCommand
  | unknownCommand (name : String)
  | badAssignment (written : String)
deriving DecidableEq, Repr

/-- The arguments that were read: options in order, each with its value, and operands. -/
structure Arguments where
  options : List (String × String) := []
  operands : List String := []
deriving DecidableEq, Repr

namespace Arguments

/-- The values of an option, in order. -/
def values (a : Arguments) (name : String) : List String :=
  (a.options.filter (fun o => o.1 == name)).map (·.2)

/-- The last value of an option. -/
def value? (a : Arguments) (name : String) : Option String := (a.values name).getLast?

/-- The option is there. -/
def has (a : Arguments) (name : String) : Bool := !(a.values name).isEmpty

end Arguments

/-- The option with a spelling. -/
def optionOf? (forms : List OptionForm) (spelling : String) : Option OptionForm :=
  forms.find? (fun f => (f.name :: f.others).contains spelling)

/-! ### Reading -/

/-- An option as it is written, cut at its first equals sign. -/
def cutAtEquals (s : List Char) : String × Option String :=
  let spelling := s.takeWhile (· != '=')
  match s.drop spelling.length with
  | _ :: value => (String.ofList spelling, some (String.ofList value))
  | [] => (String.ofList spelling, none)

/-- The options that one argument of run-together letters gives; the last may still wait for its
    value. -/
def letters (forms : List OptionForm) : List Char →
    Except UsageError (List (String × String) × Option String)
  | [] => .ok ([], none)
  | c :: rest => do
    let spelling := String.ofList ['-', c]
    let some form := optionOf? forms spelling | .error (.unknownOption spelling)
    if form.takesValue then
      if rest.isEmpty then return ([], some form.name)
      else return ([(form.name, String.ofList rest)], none)
    else
      let (found, waiting) ← letters forms rest
      return ((form.name, "") :: found, waiting)

/-- The options that one argument gives; the last may still wait for its value. -/
def optionsOf (forms : List OptionForm) (argument : List Char) :
    Except UsageError (List (String × String) × Option String) :=
  let (spelling, attached) := cutAtEquals argument
  let isLong := "--".toList.isPrefixOf argument
  match (optionOf? forms spelling).filter (fun _ => isLong) with
  | some form =>
    match form.takesValue, attached with
    | true, some value => .ok ([(form.name, value)], none)
    | true, none => .ok ([], some form.name)
    | false, none => .ok ([(form.name, "")], none)
    | false, some _ => .error (.unexpectedValue form.name)
  | none =>
    if isLong then .error (.unknownOption spelling) else letters forms (argument.drop 1)

/-- Reads arguments.  If `mixed`, options may follow operands; otherwise the first operand ends
    the options. -/
def read (forms : List OptionForm) (mixed : Bool) (a : Arguments) :
    (waiting : Option String) → List String → Except UsageError Arguments
  | some name, [] => .error (.missingValue name)
  | none, [] => .ok a
  | some name, value :: rest =>
    read forms mixed { a with options := a.options ++ [(name, value)] } none rest
  | none, argument :: rest => do
    if argument == "--" then return { a with operands := a.operands ++ rest }
    else if argument.toList.head? == some '-' && 1 < argument.length then
      let (found, waiting) ← optionsOf forms argument.toList
      read forms mixed { a with options := a.options ++ found } waiting rest
    else if mixed then read forms mixed { a with operands := a.operands ++ [argument] } none rest
    else return { a with operands := a.operands ++ argument :: rest }

/-! ### Commands -/

/-- What the program is asked to do. -/
inductive Command where
  /-- Recompute the derived fields of a form and validate its values. -/
  | validate (schema : String) (values : Option String) (asJson : Bool)
  /-- Recompute the derived fields of a form and show its values. -/
  | compute (schema : String) (values : Option String) (asJson : Bool)
  /-- Check an expression without evaluating it. -/
  | check (expression : String) (names : List String)
  /-- Evaluate an expression. -/
  | evaluate (expression : String) (assignments : List String)
  /-- List the functions that expressions may call. -/
  | functions
deriving DecidableEq, Repr

/-- An invocation of the program: to show its version, or to run a command under settings. -/
inductive Invocation where
  | version
  /-- The arguments of the command are read only once the settings are loaded. -/
  | run (config : Option String) (command : Except UsageError Command)

/-- The options of the program as a whole. -/
def programOptions : List OptionForm :=
  [⟨"--config", ["-c"], true⟩, ⟨"--verbose", [], false⟩, ⟨"--version", ["-v"], false⟩]

/-- The options of the commands that work on a form. -/
def formOptions : List OptionForm := [⟨"--values", [], true⟩, ⟨"--json", [], false⟩]

/-- The one operand of a command. -/
def operand (a : Arguments) : Except UsageError String :=
  match a.operands with
  | [one] => .ok one
  | operands => .error (.wrongOperands operands)

/-- Reads the arguments of a command; nothing if there is no command of that name. -/
def command? (name : String) (arguments : List String) : Option (Except UsageError Command) :=
  let reading (forms : List OptionForm) := read forms true {} none arguments
  match name with
  | "validate" => some do
    let a ← reading formOptions
    return .validate (← operand a) (a.value? "--values") (a.has "--json")
  | "compute" => some do
    let a ← reading formOptions
    return .compute (← operand a) (a.value? "--values") (a.has "--json")
  | "check" => some do
    let a ← reading [⟨"--var", [], true⟩]
    return .check (← operand a) (a.values "--var")
  | "eval" => some do
    let a ← reading [⟨"--set", [], true⟩]
    return .evaluate (← operand a) (a.values "--set")
  | "functions" => some do
    let a ← reading []
    if a.operands.isEmpty then return .functions else .error (.wrongOperands a.operands)
  | _ => none

/-- Reads the arguments of the program. -/
def invocation (arguments : List String) : Except UsageError Invocation := do
  let a ← read programOptions false {} none arguments
  if a.has "--version" then return .version
  else
    let name :: rest := a.operands | .error .missingCommand
    let some command := command? name rest | .error (.unknownCommand name)
    return .run (a.value? "--config") command

end FormEngine.CommandLine
