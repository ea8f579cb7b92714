/-
  FormEngine/Loading.lean
  =======================
  **Loading** schemas, value maps and settings from a folder.

  A file whose name ends in `.json` is read in the strict dialect, every other in
  the loose one; settings are sectioned documents.  A settings file that is not
  there means the default settings.

  What parses a text and what checks the parts of a schema is not part of the engine:
  `Readers` are handed in.  Each documents the error that it raises on a text or on
  entries that it cannot use, and loading turns that error into one of its own; whatever
  else a reader raises goes through.
-/
import FormEngine.Folder
import FormEngine.Schema.Error
import FormEngine.Settings

namespace FormEngine

/-! ### Readers -/

/-- What a stage of loading raises instead of giving a result: the error that it documents, a
    numeral beyond the digit limit, or anything else. -/
inductive Raised (δ ε : Type) where
  | documented (error : δ)
  | numeral (error : NumeralError)
  | other (error : ε)
deriving DecidableEq, Repr

namespace Raised

variable {δ δ' ε : Type}

/-- Only the documented error is caught, and another one raised instead. -/
def caught (instead : δ → δ') : Raised δ ε → Raised δ' ε
  | .documented error => .documented (instead error)
  | .numeral error => .numeral error
  | .other error => .other error

/-- The failure of settings, as it is raised. -/
def ofSettings : SettingsFailure → Raised SettingsError ε
  | .rejected error => .documented error
  | .numeral error => .numeral error

end Raised

/-- What loading is handed: the parsers of the two dialects and of sectioned documents, which
    document an error with a text, and what makes a schema of entries. -/
structure Readers (α ι ε : Type) where
  strict : String → Except (Raised String ε) (Parsed α)
  loose : String → Except (Raised String ε) (Parsed α)
  sections : String → Except (Raised String ε) (Record Value)
  model : List (Key × α) → Except (Raised ι ε) Schema

namespace Folder

/-- The file is read in the strict dialect. -/
def isStrict (path : String) : Bool := suffix path == ".json"

/-- The text of a file as it is read. -/
def content (text : String) : String := String.ofList (plainLines text.toList)

/-- Where settings are looked for unless a path is given. -/
def settingsPath : String := "formsmith.toml"

end Folder

namespace Readers

open Folder (content isStrict normalPath)

variable {α ι ε : Type} (readers : Readers α ι ε)

/-! ### Schemas and value maps -/

/-- What a text holds in one of the dialects. -/
def parse (strict : Bool) (text : String) : Except (Raised String ε) (Parsed α) :=
  if strict then readers.strict text else readers.loose text

/-- What the document at a path holds. -/
def readDocument (folder : Folder) (path : String) :
    Except (Raised (SchemaError ι) ε) (Parsed α) :=
  match folder path with
  | none => .error (.documented { fault := .notFound path })
  | some .directory => .error (.documented { fault := .isDirectory path, file? := path })
  | some (.file text) =>
    let malformed (detail : String) : SchemaFault ι :=
      if isStrict path then .malformedStrict detail else .malformedLoose detail
    (readers.parse (isStrict path) (content text)).mapError
      (Raised.caught fun detail => { fault := malformed detail, file? := path })

/-- The schema that a parsed document describes. -/
def schemaOf (file? : Option String) (document : Parsed α) :
    Except (Raised (SchemaError ι) ε) Schema := do
  let entries ← (DocumentRole.schema.entries file? document).mapError Raised.documented
  (readers.model entries).mapError
    (Raised.caught fun rejection => { fault := .invalid rejection, file? })

/-- The schema at a path. -/
def loadSchema (folder : Folder) (path : String) : Except (Raised (SchemaError ι) ε) Schema := do
  let path := normalPath path
  readers.schemaOf (some path) (← readers.readDocument folder path)

/-- An entry under the text of its key. -/
def named (entry : Key × α) : Except NumeralError (String × α) := do
  return (← entry.1.shown, entry.2)

/-- The value map that a parsed document describes; an empty document is an empty map.  Of
    several keys with one text the last one counts. -/
def valuesOf (file? : Option String) (document : Parsed α) :
    Except (Raised (SchemaError ι) ε) (Record α) :=
  match document with
  | .null => .ok []
  | document => do
    let entries ← (DocumentRole.values.entries file? document).mapError Raised.documented
    return Record.ofEntries (← (entries.mapM named).mapError Raised.numeral)

/-- The value map at a path. -/
def loadValues (folder : Folder) (path : String) :
    Except (Raised (SchemaError ι) ε) (Record α) := do
  let path := normalPath path
  valuesOf (some path) (← readers.readDocument folder path)

/-! ### Settings -/

/-- The entries of a section of a settings file. -/
def sectionOf (contents : Record Value) (name : String) : Except SettingsFailure (Record Value) :=
  match contents.get? name with
  | none => .ok []
  | some (.mapping _ entries) => .ok entries
  | some _ => .error (.rejected (.notTable name))

/-- The settings that are given in the two sections. -/
def settingsGiven (engine validation : Record Value) : Record Value :=
  let given (entries : Record Value) (name : String) : Record Value :=
    ((entries.get? name).map (fun v => (name, v))).toList
  given engine "max_expression_length" ++ given engine "cycle_policy"
    ++ given validation "unknown_rule_policy"

/-- The settings that the contents of a file give. -/
def settingsOf (contents : Record Value) : Except SettingsFailure Settings := do
  let engine ← sectionOf contents "engine"
  let validation ← sectionOf contents "validation"
  Settings.ofRecord (settingsGiven engine validation)

/-- The settings at a path, none if nothing stands there. -/
def loadSettings (folder : Folder) (path : String) :
    Except (Raised SettingsError ε) (Option Settings) :=
  let path := normalPath path
  match folder path with
  | none => .ok none
  | some .directory => .error (.documented (.isDirectory path))
  | some (.file text) => do
    let contents ← (readers.sections (content text)).mapError (Raised.caught .malformed)
    return some (← (settingsOf contents).mapError Raised.ofSettings)

end Readers

end FormEngine
