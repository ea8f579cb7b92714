/-
  FormEngine/Folder.lean
  ======================
  **Folders**: what stands at which path.

  The engine reads a few files and writes none, so a folder is a function from
  paths to entries.  Paths are looked up and shown in normal form: without empty
  components and without components that stay where they are.
-/
import FormEngine.Record

namespace FormEngine

/-- What can stand at a path. -/
inductive Entry where
  | directory
  | file (text : String)
deriving DecidableEq, Repr

/-- What stands at each path in normal form. -/
abbrev Folder := String → Option Entry

namespace Folder

/-! ### Paths -/

/-- The components of a path, between slashes. -/
def components : List Char → List (List Char)
  | [] => [[]]
  | c :: s =>
    if c = '/' then [] :: components s
    else
      match components s with
      | first :: rest => (c :: first) :: rest
      | [] => [[c]]

/-- The components that lead somewhere. -/
def steps (path : String) : List (List Char) :=
  (components path.toList).filter (fun c => !c.isEmpty && c != ['.'])

/-- The normal form of a path; the folder itself is a point. -/
def normalPath (path : String) : String :=
  let root := if path.toList.head? = some '/' then ['/'] else []
  match root ++ List.intercalate ['/'] (steps path) with
  | [] => "."
  | normal => String.ofList normal

/-- The part of a file's name from its last point on, in lower case; none if the name begins or
    ends there. -/
def suffix (path : String) : String :=
  let name := ((steps path).getLast?).getD []
  let after := (name.reverse.takeWhile (· != '.')).reverse
  let front := name.take (name.length - after.length - 1)
  if after.isEmpty || front.isEmpty || after.length = name.length then ""
  else String.ofList ('.' :: after.map Char.toLower)

/-! ### Contents -/

/-- The folder that holds these files, each under its path. -/
def ofFiles (files : Record String) : Folder := fun path =>
  if path == "." then some .directory
  else
    match files.get? path with
    | some text => some (.file text)
    | none =>
      if files.any (fun f => (path ++ "/").toList.isPrefixOf f.1.toList) then some .directory
      else none

/-- A text in which every line ends with a line feed alone. -/
def plainLines : List Char → List Char
  | [] => []
  | '\r' :: '\n' :: s => '\n' :: plainLines s
  | '\r' :: s => '\n' :: plainLines s
  | c :: s => c :: plainLines s

end Folder

end FormEngine
