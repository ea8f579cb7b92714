/-
  FormEngine/Main.lean
  ====================
  **The program**: reads the files that its arguments name, runs, and writes the
  output.
-/
import FormEngine.CommandLine.Run

namespace FormEngine.CommandLine

/-- What stands at a path. -/
def readEntry (path : String) : IO (Option Entry) := do
  try
    return some (.file (← IO.FS.readFile path))
  catch
    | .noFileOrDirectory .. => return none
    | _ => return some .directory

/-- The folder as far as a run on these arguments can see it. -/
def readFolder (arguments : List String) : IO Folder := do
  let entries ← (paths arguments).mapM fun path => do return (path, ← readEntry path)
  return fun path => (entries.lookup path).join

/-- The number of columns of the terminal. -/
def readColumns : IO Nat := do
  return ((← IO.getEnv "COLUMNS").bind String.toNat?).getD 80

end FormEngine.CommandLine

def main (arguments : List String) : IO UInt32 := do
  let folder ← FormEngine.CommandLine.readFolder arguments
  let columns ← FormEngine.CommandLine.readColumns
  let outcome := FormEngine.CommandLine.run { columns, folder } arguments
  IO.print outcome.output
  return outcome.exitCode.toUInt32
