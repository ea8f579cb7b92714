/-
  FormEngine/ErrorContext.lean
  ============================
  **Where an error belongs**: a file, a field, a position in an expression.

  An error that has a context, even an empty one, is shown below it.
-/
import FormEngine.Text.Numeral

namespace FormEngine

structure ErrorContext where
  file? : Option String := none
  field? : Option String := none
  position? : Option Int := none
deriving DecidableEq, Repr

namespace ErrorContext

/-- The parts that are known, in one line. -/
def text (c : ErrorContext) : String :=
  String.intercalate " "
    (c.file?.toList
      ++ (c.field?.map (fun id => "field '" ++ id ++ "'")).toList
      ++ (c.position?.map (fun n => "at " ++ Text.decimal n)).toList)

end ErrorContext

/-- A message below the context of the error. -/
def inContext (context : Option ErrorContext) (message : String) : String :=
  match context with
  | some c => c.text ++ "\n" ++ message
  | none => message

end FormEngine
