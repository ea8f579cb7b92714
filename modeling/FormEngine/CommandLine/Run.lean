/-
  FormEngine/CommandLine/Run.lean
  ===============================
  **Running the program** on a folder.

  A run has an exit code and an output.  The code is zero on success, one if
  something is wrong with the files, the form or the expression, and two if the
  arguments do not fit.
-/
import FormEngine.CommandLine.Arguments
import FormEngine.CommandLine.Table
import FormEngine.Document.Loading
import FormEngine.Document.Writer
import FormEngine.Session
import FormEngine.Text.Marks

namespace FormEngine.CommandLine

/-! ### Outcomes -/

structure Outcome where
  exitCode : Nat
  output : String := ""
deriving DecidableEq, Repr

/-- How a run ends early. -/
inductive Stop where
  /-- With something to say. -/
  | failed (output : String)
  | numeral (error : NumeralError)
  | usage (error : UsageError)
deriving DecidableEq, Repr

def Stop.outcome : Stop → Outcome
  | .failed output => ⟨1, output⟩
  | .numeral _ => ⟨1, ""⟩
  | .usage _ => ⟨2, ""⟩

/-- What the version option shows. -/
def versionText : String := "formsmith 0.1.0\n"

/-- The terminal that a run writes to, and the files it reads. -/
structure Surroundings where
  columns : Nat
  folder : Folder

variable (here : Surroundings)

/-! ### On the terminal -/

/-- What the terminal shows of a text whose marks are not to take effect. -/
def plain (s : String) : String :=
  String.ofList ((Text.shown? (Text.protectedText s.toList)).getD [])

/-- What the terminal shows of a text with marks.  A mark out of place ends the run, after what
    was said `before`. -/
def marked (before s : String) : Except Stop String :=
  match Text.shown? s.toList with
  | some shown => .ok (String.ofList shown)
  | none => .error (.failed before)

/-- A message on the terminal, after a label. -/
def said (label message : String) : String := messageText here.columns (label ++ plain message)

/-! ### Inputs -/

def loadedSettings (config : Option String) : Except Stop Settings :=
  let path := Folder.normalPath (config.getD Folder.settingsPath)
  match here.folder.loadSettings path with
  | .ok settings => .ok (settings.getD {})
  | .error (.numeral e) => .error (.numeral e)
  | .error (.rejected e) =>
    .error (.failed (said here "Config error: " (inContext (some { file? := path }) e.message)))

def loading {α : Type} (result : Except Folder.LoadFailure α) : Except Stop α :=
  match result with
  | .ok a => .ok a
  | .error (.numeral e) => .error (.numeral e)
  | .error (.schema e) => .error (.failed (said here "Error: " e.text))

/-- The schema at a path, and its initial values with those of a file, if one is given. -/
def loadedForm (schema : String) (values : Option String) :
    Except Stop (Schema × Record Value) := do
  let s ← loading here (here.folder.loadSchema schema)
  match values with
  | none => return (s, s.initialValues)
  | some path => return (s, s.initialValues.overlay (← loading here (here.folder.loadValues path)))

/-! ### Reports -/

def mapping (entries : List (String × Value)) : Value := .mapping (.literal []) entries

def list (items : List Value) : Value := .list (.literal []) items

/-- The failures of derived fields as a document. -/
def errorDocument (errors : DerivedErrors) : Value :=
  mapping (errors.map fun e => (e.1, mapping
    [("type", .text e.2.fault.kind.name), ("message", .text e.2.fault.message),
     ("fieldId", .text e.2.field)]))

/-- The failures of derived fields as a table, if there are any, after what was said `before`.
    Ids are shown as texts with marks. -/
def errorTable (before : String) (errors : DerivedErrors) : Except Stop String :=
  if errors.isEmpty then .ok ""
  else do
    let rows ← errors.mapM fun e =>
      return [← marked before e.1, e.2.fault.kind.name, plain e.2.fault.message]
    return Table.text here.columns {
      title := "Derived field errors"
      heads := [("Field", .left), ("Type", .left), ("Message", .left)]
      rows := rows }

/-- The validation errors as a table. -/
def validationTable (before : String) (s : Schema) (errors : FieldErrors) : Except Stop String := do
  let rows ← errors.mapM fun e => do
    let id ← marked before e.1
    return e.2.map fun message => [id, plain message]
  return Table.text here.columns {
    title := "Validation errors: " ++ plain s.name
    heads := [("Field", .left), ("Message", .left)]
    rows := rows.flatten }

/-- A document over several lines. -/
def documentText (v : Value) : Except Stop String := do
  return (← (Document.write true v).mapError .numeral) ++ "\n"

/-! ### Commands -/

def runValidate (settings : Settings) (schema : String) (values : Option String) (asJson : Bool) :
    Except Stop Outcome := do
  let (s, values) ← loadedForm here schema values
  let u ← (s.update settings values).mapError .numeral
  let errors ← (s.validate u.values).mapError .numeral
  let exitCode := if errors.isEmpty then 0 else 1
  if asJson then
    let output ← documentText (mapping
      [("isValid", .bool errors.isEmpty),
       ("fieldErrors", mapping (errors.mapValues fun messages => list (messages.map .text))),
       ("derivedErrors", errorDocument u.errors)])
    return ⟨exitCode, output⟩
  else
    let failures ← errorTable here "" u.errors
    if errors.isEmpty then
      return ⟨exitCode, failures ++ messageText here.columns
        ("✓ Form '" ++ plain s.name ++ "' is valid")⟩
    else
      return ⟨exitCode, failures ++ (← validationTable here failures s errors)
        ++ messageText here.columns ("✗ " ++ errors.length.repr ++ " field(s) invalid")⟩

/-- The row of a field: its id, its value as a document, and a mark if it is derived. -/
def valueRow (values : Record Value) (f : Field) : Except Stop (List String) := do
  let shown ← (Document.write false (Validation.valueOf values f.id)).mapError .numeral
  return [f.id, plain shown, if f.isDerived then "✓" else ""]

/-- The row with its id shown as a text with marks. -/
def markedRow : List String → Except Stop (List String)
  | id :: cells => do return (← marked "" id) :: cells
  | [] => .ok []

def runCompute (settings : Settings) (schema : String) (values : Option String) (asJson : Bool) :
    Except Stop Outcome := do
  let (s, values) ← loadedForm here schema values
  let u ← (s.update settings values).mapError .numeral
  let exitCode := if u.errors.isEmpty then 0 else 1
  if asJson then
    let output ← documentText (mapping
      [("values", mapping u.values), ("errors", errorDocument u.errors)])
    return ⟨exitCode, output⟩
  else
    let rows ← s.fields.mapM (valueRow u.values)
    let values := Table.text here.columns {
      title := "Values: " ++ plain s.name
      heads := [("Field", .left), ("Value", .left), ("Derived", .centre)]
      rows := ← rows.mapM markedRow }
    return ⟨exitCode, values ++ (← errorTable here values u.errors)⟩

def runCheck (settings : Settings) (expression : String) (names : List String) :
    Except Stop Outcome := do
  let known := if names.isEmpty then none else some names
  let report ← (reportExpression settings (.text expression) known).mapError .numeral
  match report.problem? with
  | none => return ⟨0, messageText here.columns "✓ Expression is valid"⟩
  | some problem => return ⟨1, said here "✗ " problem⟩

/-- A name and a value from `name=value`; a value that is no document is a text. -/
def assignment (number : Nat) (s : String) : Except Stop (String × Value) :=
  let name := s.toList.takeWhile (· != '=')
  match s.toList.drop name.length with
  | [] => .error (.usage (.badAssignment s))
  | _ :: written =>
    if Text.isBlankText name then .error (.usage (.badAssignment s))
    else
      let bound := String.ofList (Text.trim name)
      let written := String.ofList written
      match Document.read Document.strict number written with
      | .ok v => .ok (bound, v)
      | .error .malformed => .ok (bound, .text written)
      | .error (.numeral e) => .error (.numeral e)

/-- The bindings of assignments, numbered from `number` on. -/
def assignments (number : Nat) : List String → Except Stop (List (String × Value))
  | [] => .ok []
  | s :: rest => do
    let first ← assignment number s
    return first :: (← assignments (number + 1) rest)

/-- The word for the stage of an error. -/
def kindTitle : ExpressionErrorKind → String
  | .invalid => "InvalidExpression"
  | .forbidden => "ForbiddenConstruct"
  | .evaluation => "EvaluationError"
  | .result => "InvalidResult"

def runEvaluate (settings : Settings) (expression : String) (written : List String) :
    Except Stop Outcome := do
  let bindings := Record.ofEntries (← assignments 0 written)
  match evaluateExpression settings (.text expression) bindings with
  | .ok v => return ⟨0, (← (Document.write false v).mapError .numeral) ++ "\n"⟩
  | .error (.error e) => .error (.failed (said here (kindTitle e.kind ++ ": ") e.message))
  | .error (.numeral e) => .error (.numeral e)

def runFunctions : Outcome :=
  ⟨0, Table.text here.columns {
    title := "Available functions"
    heads := [("Namespace", .left), ("Functions", .left)]
    rows := Library.available.map fun e => [e.1, String.intercalate ", " e.2] }⟩

def runCommand (settings : Settings) : Command → Except Stop Outcome
  | .validate schema values asJson => runValidate here settings schema values asJson
  | .compute schema values asJson => runCompute here settings schema values asJson
  | .check expression names => runCheck here settings expression names
  | .evaluate expression written => runEvaluate here settings expression written
  | .functions => .ok (runFunctions here)

/-- The outcome of the program on these arguments. -/
def run (arguments : List String) : Outcome :=
  let result : Except Stop Outcome := do
    match ← (invocation arguments).mapError .usage with
    | .version => return ⟨0, versionText⟩
    | .run config command => do
      let settings ← loadedSettings here config
      runCommand here settings (← command.mapError .usage)
  match result with
  | .ok outcome => outcome
  | .error stop => stop.outcome

/-- The paths that a run on these arguments may read. -/
def paths (arguments : List String) : List String :=
  match invocation arguments with
  | .ok (.run config command) =>
    let files :=
      match command with
      | .ok (.validate schema values _) | .ok (.compute schema values _) => schema :: values.toList
      | _ => []
    (config.getD Folder.settingsPath :: files).map Folder.normalPath
  | _ => []

end FormEngine.CommandLine
