/-
  FormEngine/Schema/Basic.lean
  ============================
  **Form schemas**: ordered fields, each with its rules and perhaps a derivation.

  A field is entered by the user or *derived*: computed by an expression from the
  values of its parents.  A schema never holds two fields with one id, which is
  part of its type.  Rules keep the text of their type, so that a schema with rule
  types of a later engine can be read; `Rule.ruleType?` tells the known ones.
-/
import FormEngine.Record
import FormEngine.Text.Blank
import FormEngine.Text.Case
import FormEngine.Value.Basic

namespace FormEngine

/-! ### Kinds of fields and rules -/

/-- The kind of a field. -/
inductive FieldType where
  | text
  | number
  | textarea
  | select
  | radio
  | checkbox
  | date
deriving DecidableEq, Repr

namespace FieldType

def all : List FieldType := [.text, .number, .textarea, .select, .radio, .checkbox, .date]

def name : FieldType → String
  | .text => "text"
  | .number => "number"
  | .textarea => "textarea"
  | .select => "select"
  | .radio => "radio"
  | .checkbox => "checkbox"
  | .date => "date"

def ofName? (s : String) : Option FieldType := all.find? (fun t => t.name == s)

/-- A choice of one needs options.  A checkbox does not: without options it is a single toggle. -/
def requiresOptions : FieldType → Bool
  | .select | .radio => true
  | _ => false

end FieldType

/-- The kinds of rules that the engine knows. -/
inductive RuleType where
  | notEmpty
  | minLength
  | maxLength
  | email
  | customPassword
deriving DecidableEq, Repr

namespace RuleType

def all : List RuleType := [.notEmpty, .minLength, .maxLength, .email, .customPassword]

def name : RuleType → String
  | .notEmpty => "notEmpty"
  | .minLength => "minLength"
  | .maxLength => "maxLength"
  | .email => "email"
  | .customPassword => "customPassword"

def ofName? (s : String) : Option RuleType := all.find? (fun t => t.name == s)

theorem ofName?_name (t : RuleType) : ofName? t.name = some t := by
  cases t <;> decide +kernel

end RuleType

/-! ### Rules and derivations -/

/-- The bound of a length rule: a number, or a text that may write one. -/
inductive Bound where
  | number (n : Number)
  | text (s : String)
deriving DecidableEq, Repr

/-- The bound as a form value. -/
def Bound.toValue : Bound → Value
  | .number n => .number n
  | .text s => .text s

/-- A constraint on the value of one field, with the message that is reported when it fails. -/
structure Rule where
  type : String
  bound : Option Bound := none
  message : String
deriving DecidableEq, Repr

namespace Rule

/-- The type of the rule, if the engine knows it. -/
def ruleType? (r : Rule) : Option RuleType := RuleType.ofName? r.type

/-- The engine knows the type of the rule. -/
def isKnown (r : Rule) : Bool := r.ruleType?.isSome

/-- The bound as a form value, null if there is none. -/
def boundValue (r : Rule) : Value := (r.bound.map Bound.toValue).getD .null

end Rule

/-- How a derived field gets its value: the fields that its expression reads, and the expression. -/
structure Derivation where
  parents : List String := []
  logic : String := ""
deriving DecidableEq, Repr

/-! ### Fields -/

structure Field where
  id : String
  type : FieldType
  label : String
  required : Bool := false
  /-- The default that the schema gives, which may be null. -/
  default? : Option Value := none
  options : List String := []
  rules : List Rule := []
  derivation? : Option Derivation := none
deriving Repr

namespace Field

def isDerived (f : Field) : Bool := f.derivation?.isSome

/-- The name under which expressions may refer to the field: its label in lower case, with an
    underscore for each run of blanks. -/
def variableName (f : Field) : String :=
  String.ofList (Text.collapse '_' (Text.lower (Text.trim f.label.toList)))

/-- The value at the start of a session, begun at the time `now`: the default, or else an empty
    value of the right shape. -/
def initialValue (f : Field) (now : Nat := 0) : Value :=
  match f.default? with
  | some v => v
  | none =>
    match f.type with
    | .checkbox => if f.options.isEmpty then .bool false else .list (.initial now f.id) []
    | _ => .text ""

end Field

/-! ### Schemas -/

/-- When a schema was made: a text of any form, or a moment in ISO form. -/
inductive Stamp where
  | text (s : String)
  | moment (iso : String)
deriving DecidableEq, Repr

structure Schema where
  id : String
  name : String
  createdAt : Option Stamp := none
  fields : List Field
  ids_nodup : (fields.map Field.id).Nodup
deriving Repr

namespace Schema

/-- The ids of the fields, in declaration order. -/
def ids (s : Schema) : List String := s.fields.map Field.id

/-- The field with an id. -/
def field? (s : Schema) (id : String) : Option Field := s.fields.find? (fun f => f.id == id)

/-- The fields that are computed, in declaration order. -/
def derivedFields (s : Schema) : List Field := s.fields.filter Field.isDerived

/-- The names for a derived field's parents that come from their labels. -/
def parentAliases (s : Schema) (d : Derivation) : Record String :=
  Record.ofEntries (d.parents.filterMap (fun p => (s.field? p).map (fun f => (p, f.variableName))))

/-- A field that a search by id finds has that id. -/
theorem id_of_field? {s : Schema} {id : String} {f : Field} (h : s.field? id = some f) :
    f.id = id := by
  simpa using List.find?_some h

/-- Every field is found under its id. -/
theorem field?_of_mem {s : Schema} {f : Field} (h : f ∈ s.fields) : s.field? f.id = some f := by
  have distinct := s.ids_nodup
  simp only [field?]
  generalize s.fields = fields at h distinct
  induction fields with
  | nil => simp at h
  | cons g fields ih =>
    simp only [List.map_cons, List.nodup_cons] at distinct
    rcases List.mem_cons.mp h with rfl | h
    · simp
    · have other : ¬ g.id = f.id := fun e => distinct.1 (e ▸ List.mem_map_of_mem h)
      simp only [List.find?_cons, beq_eq_false_iff_ne.mpr other]
      exact ih h distinct.2

end Schema

end FormEngine
