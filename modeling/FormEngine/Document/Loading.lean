/-
  FormEngine/Document/Loading.lean
  ================================
  **Loading with the readers of this library**, as the command line does.

  These readers know the documents of `Document.Reader` and `Document.Sections` and
  nothing beyond them.
-/
import FormEngine.Document.Sections
import FormEngine.Loading

namespace FormEngine

/-- A fault of a document, as it is raised. -/
def DocumentFault.raised : DocumentFault → Raised String Empty
  | .malformed => .documented ""
  | .numeral e => .numeral e

/-- The readers of this library.  Documents are numbered, to tell their values apart. -/
def Document.readers (number : Nat) : Readers Value (List Issue) Empty where
  strict text := ((read strict number text).map Parsed.ofValue).mapError DocumentFault.raised
  loose text := ((readLoose number text).map Parsed.ofValue).mapError DocumentFault.raised
  sections text := (Sections.read text).mapError DocumentFault.raised
  model entries := (Schema.ofEntries entries).mapError Raised.documented

namespace Folder

/-- How loading can fail: with an error of the file, or on a numeral beyond the digit limit. -/
inductive LoadFailure where
  | schema (error : SchemaError)
  | numeral (error : NumeralError)
deriving DecidableEq, Repr

def LoadFailure.ofRaised : Raised SchemaError Empty → LoadFailure
  | .documented error => .schema error
  | .numeral error => .numeral error

def settingsFailure : Raised SettingsError Empty → SettingsFailure
  | .documented error => .rejected error
  | .numeral error => .numeral error

/-- The schema at a path. -/
def loadSchema (folder : Folder) (path : String) : Except LoadFailure Schema :=
  ((Document.readers 0).loadSchema folder path).mapError .ofRaised

/-- The value map at a path. -/
def loadValues (folder : Folder) (path : String) : Except LoadFailure (Record Value) :=
  ((Document.readers 1).loadValues folder path).mapError .ofRaised

/-- The settings at a path, none if nothing stands there. -/
def loadSettings (folder : Folder) (path : String) : Except SettingsFailure (Option Settings) :=
  ((Document.readers 0).loadSettings folder path).mapError settingsFailure

end Folder

end FormEngine
