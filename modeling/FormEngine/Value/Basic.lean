/-
  FormEngine/Value/Basic.lean
  ===========================
  **Form values**: what a field of a form can hold and an expression can compute.

  Besides the scalars there are ordered collections, mappings with their keys in
  order, dates, and functions; the last two, with sets and tuples, can only be
  handed in by the surrounding program.  Two such compound values are the same
  object or not whatever they contain, so each carries an `Identity`; scalars have
  none.

  What the engine makes itself are lists, and each time it evaluates an expression it
  makes new ones.  Their identities say on which `Occasion`.
-/
import FormEngine.Number.Basic
import FormEngine.Text.Blank

namespace FormEngine

/-- One evaluation of an expression: when it takes place, and for which field, if for any.  Times
    only tell evaluations apart; one that stands by itself needs none. -/
structure Occasion where
  time : Nat := 0
  field : String := ""
deriving DecidableEq, Repr

/-- Which object a compound value is.  Equal identities mean the same object. -/
inductive Identity where
  /-- The object read at a position of a document. -/
  | read (document position : Nat)
  /-- The empty list that a session, begun at that time, gave a field to start with. -/
  | initial (time : Nat) (field : String)
  /-- The list built by the list literal at a place of an expression, given as the
      path from that place up to the whole expression. -/
  | literal (path : List Nat) (occasion : Occasion := {})
  /-- The list that the evaluation gave back to be stored. -/
  | result (occasion : Occasion := {})
deriving DecidableEq, Repr

/-- A form value.  A date is kept as its ISO text, with or without a time; so is a time of day. -/
inductive Value where
  | null
  | bool (b : Bool)
  | number (n : Number)
  | text (s : String)
  | list (identity : Identity) (items : List Value)
  | tuple (identity : Identity) (items : List Value)
  | set (identity : Identity) (items : List Value)
  | mapping (identity : Identity) (entries : List (String × Value))
  | date (identity : Identity) (iso : String)
  | function (identity : Identity)
deriving Repr

namespace Value

instance : Inhabited Value := ⟨.null⟩

/-- An integer as a value. -/
def int (n : Int) : Value := .number (.int n)

/-- A binary64 number as a value. -/
def float (x : Binary64) : Value := .number (.float x)

/-- The object that a compound value is. -/
def identity? : Value → Option Identity
  | .list i _ | .tuple i _ | .set i _ | .mapping i _ | .date i _ | .function i => some i
  | _ => none

/-- The elements of a list or a tuple. -/
def items? : Value → Option (List Value)
  | .list _ items | .tuple _ items => some items
  | _ => none

def isNull : Value → Bool
  | .null => true
  | _ => false

/-- A number; a boolean is none. -/
def isNumber : Value → Bool
  | .number _ => true
  | _ => false

/-- A list, a tuple or a mapping: what the equality of expressions calls a container. -/
def isContainer : Value → Bool
  | .list _ _ | .tuple _ _ | .mapping _ _ => true
  | _ => false

/-- Both values are one and the same object. -/
def sameObject (v w : Value) : Bool :=
  match v.identity?, w.identity? with
  | some i, some j => decide (i = j)
  | _, _ => false

/-- The values that can stand in a stored list: scalars and dates. -/
def isScalar : Value → Bool
  | .null | .bool _ | .number _ | .text _ | .date _ _ => true
  | _ => false

/-- Null, blank text, or a collection without elements.  Zero and `false` are not empty. -/
def isEmpty : Value → Bool
  | .null => true
  | .text s => Text.isBlankText s.toList
  | .list _ items | .tuple _ items | .set _ items => items.isEmpty
  | .mapping _ entries => entries.isEmpty
  | _ => false

end Value

end FormEngine
