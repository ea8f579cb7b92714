/-
  FormEngine/Schema/Error.lean
  ============================
  **Errors of schemas and value maps**, with the file that they come from.

  A document is handed over parsed: all that is asked of it is whether it is a mapping,
  and under which keys its entries stand (`Parsed`).
-/
import FormEngine.ErrorContext
import FormEngine.Schema.Decoding
import FormEngine.Text.Quoted

namespace FormEngine

/-! ### Errors -/

/-- What a document is read as. -/
inductive DocumentRole where
  | schema
  | values
deriving DecidableEq, Repr

/-- Why a schema or a value map cannot be used.  A parser says in its own words why a text is
    malformed, and what checks the parts of a schema says in its own way why it is rejected. -/
inductive SchemaFault (ι : Type := List Issue) where
  | notFound (path : String)
  | isDirectory (path : String)
  | malformedStrict (detail : String)
  | malformedLoose (detail : String)
  | notMapping (role : DocumentRole) (kind : String)
  | invalid (rejection : ι)
deriving DecidableEq, Repr

/-- A fault and the file it was found in, if it came from a file. -/
structure SchemaError (ι : Type := List Issue) where
  fault : SchemaFault ι
  file? : Option String := none
deriving DecidableEq, Repr

def DocumentRole.title : DocumentRole → String
  | .schema => "Form schema"
  | .values => "Value map"

/-- An issue in one line: its place, and the sentence about it if there is one. -/
def Issue.line (i : Issue) : String :=
  let step : Step → String
    | .key name => name
    | .index n => n.repr
  String.intercalate "." (i.place.map step)
    ++ (match i.kind.explanation? with
      | some sentence => ": " ++ sentence
      | none => "")

def SchemaFault.message : SchemaFault → String
  | .notFound path => "File not found: " ++ path
  | .isDirectory path =>
    "Cannot read " ++ path ++ ": [Errno 21] Is a directory: " ++ Text.quoted path
  | .malformedStrict detail => "Invalid JSON: " ++ detail
  | .malformedLoose detail => "Invalid YAML: " ++ detail
  | .notMapping role kind => role.title ++ " must be a mapping, got " ++ kind
  | .invalid issues =>
    "Invalid form schema: " ++ String.intercalate "\n" (issues.map Issue.line)

/-- A file that is not there is no context. -/
def SchemaError.context? (e : SchemaError) : Option ErrorContext :=
  match e.fault with
  | .notFound _ => none
  | _ => some { file? := e.file? }

/-- The error as it is shown. -/
def SchemaError.text (e : SchemaError) : String := inContext e.context? e.fault.message

/-! ### Parsed documents -/

/-- A key of a parsed mapping: a text, an integer, or an object of another kind with the text
    that it shows. -/
inductive Key where
  | text (s : String)
  | integer (n : Int)
  | other (shown : String)
deriving DecidableEq, Repr

/-- The text of a key; only an integer can be too long to have one. -/
def Key.shown : Key → Except NumeralError String
  | .text s => .ok s
  | .integer n => Text.writeDecimal n
  | .other shown => .ok shown

/-- What a parser makes of a document: nothing, a mapping with its entries in order, or an object
    of another kind. -/
inductive Parsed (α : Type) where
  | null
  | mapping (entries : List (Key × α))
  | other (kind : String)
deriving Repr

/-- The word for the kind of a value. -/
def Value.kindName : Value → String
  | .null => "NoneType"
  | .bool _ => "bool"
  | .number (.int _) => "int"
  | .number (.float _) => "float"
  | .text _ => "str"
  | .list _ _ => "list"
  | .tuple _ _ => "tuple"
  | .set _ _ => "set"
  | .mapping _ _ => "dict"
  | .date _ iso => if iso.toList.contains 'T' then "datetime" else "date"
  | .function _ => "function"

/-- A value as a parsed document. -/
def Parsed.ofValue : Value → Parsed Value
  | .null => .null
  | .mapping _ entries => .mapping (entries.map fun e => (.text e.1, e.2))
  | v => .other v.kindName

/-- The entries of a document that has to be a mapping. -/
def DocumentRole.entries {α ι : Type} (role : DocumentRole) (file? : Option String) :
    Parsed α → Except (SchemaError ι) (List (Key × α))
  | .mapping entries => .ok entries
  | .null => .error { fault := .notMapping role Value.null.kindName, file? }
  | .other kind => .error { fault := .notMapping role kind, file? }

/-! ### Schemas from values -/

/-- The entries whose keys are texts; nothing else is asked for. -/
def textEntries {α : Type} (entries : List (Key × α)) : Record α :=
  entries.filterMap fun e =>
    match e.1 with
    | .text name => some (name, e.2)
    | _ => none

/-- The schema that entries describe. -/
def Schema.ofEntries (entries : List (Key × Value)) : Except (List Issue) Schema :=
  match Decoding.schema (textEntries entries) with
  | .accepted s => .ok s
  | .rejected issues => .error issues

/-- The schema that a value describes. -/
def Schema.ofValue (file? : Option String) (v : Value) : Except SchemaError Schema := do
  let entries ← DocumentRole.schema.entries file? (.ofValue v)
  (Schema.ofEntries entries).mapError fun issues => { fault := .invalid issues, file? }

end FormEngine
