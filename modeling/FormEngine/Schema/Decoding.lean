/-
  FormEngine/Schema/Decoding.lean
  ===============================
  **Decoding schemas** from form values.

  A decoder either accepts a value or reports every issue it finds, each with its
  place: the keys and indices that lead to it.  Decoders are combined so that the
  issues of all parts are reported, in declaration order (`Decoded`).  What ties
  the parts of a model together — a choice has options, ids are distinct — is
  checked only once all of its parts are accepted.

  Most entries have one key.  Some may also be given under a second spelling of it
  (`Key`); the first spelling wins and is the one that issues show.  Unknown keys
  are ignored.
-/
import FormEngine.Record
import FormEngine.Schema.Basic
import FormEngine.Schema.Moment

namespace FormEngine

/-! ### Issues -/

/-- A step on the way to a part of a value. -/
inductive Step where
  | key (name : String)
  | index (i : Nat)
deriving DecidableEq, Repr

/-- What is wrong with a part of a value. -/
inductive IssueKind where
  | missing
  | notText
  | tooShort
  | notList
  | notModel
  | notChoice
  | notBool
  | unreadableBool
  | notInteger
  | notFloat
  | notMoment
  | unreadableMoment
  /-- A choice of one, of this type, has no options. -/
  | lacksOptions (field : String) (type : FieldType)
  /-- A second field has the id of an earlier one. -/
  | duplicateId (field form : String)
deriving DecidableEq, Repr

/-- The sentence about an issue that ties several parts together. -/
def IssueKind.explanation? : IssueKind → Option String
  | .lacksOptions field type =>
    some ("Field '" ++ field ++ "' of type " ++ type.name ++ " requires options")
  | .duplicateId field form =>
    some ("Duplicate field id '" ++ field ++ "' in form '" ++ form ++ "'")
  | _ => none

structure Issue where
  place : List Step
  kind : IssueKind
deriving DecidableEq, Repr

/-- The outcome of decoding: a value, or issues. -/
inductive Decoded (α : Type) where
  | accepted (a : α)
  | rejected (issues : List Issue)
deriving Repr

namespace Decoded

variable {α β : Type}

/-- Applies a decoded function to a decoded argument; the issues of both are reported. -/
def apply (f : Decoded (α → β)) (x : Decoded α) : Decoded β :=
  match f, x with
  | .accepted f, .accepted a => .accepted (f a)
  | .accepted _, .rejected issues => .rejected issues
  | .rejected issues, .accepted _ => .rejected issues
  | .rejected first, .rejected second => .rejected (first ++ second)

instance : Applicative Decoded where
  pure := .accepted
  seq f x := f.apply (x ())

/-- Continues with an accepted value. -/
def andThen (x : Decoded α) (f : α → Decoded β) : Decoded β :=
  match x with
  | .accepted a => f a
  | .rejected issues => .rejected issues

/-- The outcome for a part, seen from the whole. -/
def under (step : Step) : Decoded α → Decoded α
  | .accepted a => .accepted a
  | .rejected issues => .rejected (issues.map (fun i => { i with place := step :: i.place }))

/-- Rejects a value as a whole. -/
def reject (kind : IssueKind) : Decoded α := .rejected [⟨[], kind⟩]

/-- Decodes the elements of a list from index `i` on. -/
def eachFrom (decode : Value → Decoded α) (i : Nat) : List Value → Decoded (List α)
  | [] => .accepted []
  | v :: rest => List.cons <$> (decode v).under (.index i) <*> eachFrom decode (i + 1) rest

end Decoded

namespace Decoding

/-! ### Parts -/

/-- The spellings of a key. -/
structure Key where
  name : String
  other? : Option String := none

/-- The entry under a key. -/
def entry? (entries : Record Value) (key : Key) : Option Value :=
  match entries.get? key.name with
  | some v => some v
  | none => key.other?.bind entries.get?

/-- A part that has to be there. -/
def required {α : Type} (decode : Value → Decoded α) (key : Key) (entries : Record Value) :
    Decoded α :=
  match entry? entries key with
  | some v => (decode v).under (.key key.name)
  | none => .rejected [⟨[.key key.name], .missing⟩]

/-- A part that has a default. -/
def withDefault {α : Type} (default : α) (decode : Value → Decoded α) (key : Key)
    (entries : Record Value) : Decoded α :=
  match entry? entries key with
  | some v => (decode v).under (.key key.name)
  | none => .accepted default

/-- A value that may be null. -/
def nullable {α : Type} (decode : Value → Decoded α) : Value → Decoded (Option α)
  | .null => .accepted none
  | v => some <$> decode v

def text : Value → Decoded String
  | .text s => .accepted s
  | _ => .reject .notText

/-- A text of at least one character. -/
def filledText : Value → Decoded String
  | .text s => if s.isEmpty then .reject .tooShort else .accepted s
  | _ => .reject .notText

/-- A list of parts. -/
def listOf {α : Type} (decode : Value → Decoded α) : Value → Decoded (List α)
  | .list _ vs | .tuple _ vs | .set _ vs => Decoded.eachFrom decode 0 vs
  | _ => .reject .notList

/-- A model is given as a mapping. -/
def model {α : Type} (decode : Record Value → Decoded α) : Value → Decoded α
  | .mapping _ entries => decode entries
  | _ => .reject .notModel

/-- The words for `false` and for `true`. -/
def falseWords : List String := ["0", "off", "f", "false", "n", "no"]
def trueWords : List String := ["1", "on", "t", "true", "y", "yes"]

/-- The truth value of an integer in the range of the machine; no other has any. -/
def boolOfInteger (n : Int) : Decoded Bool :=
  if n = 0 then .accepted false
  else if n = 1 then .accepted true
  else if -0x8000000000000000 ≤ n ∧ n < 0x8000000000000000 then .reject .unreadableBool
  else .reject .notBool

/-- A truth value: a boolean, zero or one, or one of the words in any case. -/
def bool : Value → Decoded Bool
  | .bool b => .accepted b
  | .number (.int n) => boolOfInteger n
  | .number (.float x) =>
    match x.toInt? with
    | some n => boolOfInteger n
    | none => .reject .notBool
  | .text s =>
    let word := String.ofList (s.toList.map Char.toLower)
    if falseWords.contains word then .accepted false
    else if trueWords.contains word then .accepted true
    else .reject .unreadableBool
  | _ => .reject .notBool

def fieldType : Value → Decoded FieldType
  | .text s =>
    match FieldType.ofName? s with
    | some t => .accepted t
    | none => .reject .notChoice
  | _ => .reject .notChoice

/-- The bound of a rule; a boolean counts as one or zero. -/
def bound : Value → Decoded Bound
  | .number n => .accepted (.number n)
  | .text s => .accepted (.text s)
  | .bool b => .accepted (.number (if b then 1 else 0))
  | _ => .rejected [⟨[.key "int"], .notInteger⟩, ⟨[.key "float"], .notFloat⟩,
      ⟨[.key "str"], .notText⟩]

/-- When a schema was made; a date without a time is its first moment, and a number counts
    seconds or milliseconds. -/
def stamp : Value → Decoded Stamp
  | .text s => .accepted (.text s)
  | .number n =>
    match Moment.ofNumber? n with
    | some iso => .accepted (.moment iso)
    | none => .rejected [⟨[.key "datetime"], .unreadableMoment⟩, ⟨[.key "str"], .notText⟩]
  | .date _ iso =>
    .accepted (.moment (if iso.toList.contains 'T' then iso else iso ++ "T00:00:00"))
  | _ => .rejected [⟨[.key "datetime"], .notMoment⟩, ⟨[.key "str"], .notText⟩]

/-! ### Models -/

def rule : Value → Decoded Rule :=
  model fun entries =>
    (fun type bound message => { type, bound, message : Rule })
      <$> required text ⟨"type", none⟩ entries
      <*> withDefault none (nullable bound) ⟨"value", none⟩ entries
      <*> required filledText ⟨"message", none⟩ entries

def derivation : Value → Decoded Derivation :=
  model fun entries =>
    Derivation.mk
      <$> withDefault [] (listOf text) ⟨"parentFields", some "parent_fields"⟩ entries
      <*> withDefault "" text ⟨"computationLogic", some "computation_logic"⟩ entries

/-- A choice of one has options. -/
def checkOptions (f : Field) : Decoded Field :=
  if f.type.requiresOptions && f.options.isEmpty then .reject (.lacksOptions f.id f.type)
  else .accepted f

def field : Value → Decoded Field :=
  model fun entries =>
    (Field.mk
      <$> required filledText ⟨"id", none⟩ entries
      <*> required fieldType ⟨"type", none⟩ entries
      <*> required text ⟨"label", none⟩ entries
      <*> withDefault false bool ⟨"required", none⟩ entries
      <*> withDefault none (fun v => .accepted (some v))
        ⟨"defaultValue", some "default_value"⟩ entries
      <*> withDefault [] (listOf text) ⟨"options", none⟩ entries
      <*> withDefault [] (listOf rule) ⟨"validation", none⟩ entries
      <*> withDefault none (nullable derivation)
        ⟨"derivedFrom", some "derived_from"⟩ entries).andThen checkOptions

/-- The first id that was seen already, among `seen` or earlier in the list. -/
def firstRepeated? (seen : List String) : List String → Option String
  | [] => none
  | id :: rest => if id ∈ seen then some id else firstRepeated? (id :: seen) rest

theorem nodup_of_firstRepeated?_eq_none {seen ids : List String}
    (h : firstRepeated? seen ids = none) : ids.Nodup ∧ ∀ id ∈ ids, id ∉ seen := by
  induction ids generalizing seen with
  | nil => simp
  | cons id rest ih =>
    simp only [firstRepeated?] at h
    by_cases hid : id ∈ seen
    · simp [hid] at h
    · simp only [hid, if_false] at h
      have := ih h
      refine ⟨List.nodup_cons.mpr ⟨fun hm => this.2 id hm (by simp), this.1⟩, ?_⟩
      intro x hx
      rcases List.mem_cons.mp hx with rfl | hx
      · exact hid
      · exact fun hs => this.2 x hx (List.mem_cons_of_mem _ hs)

/-- The schema of accepted parts, if the ids of its fields are distinct. -/
def schemaOf (id name : String) (createdAt : Option Stamp) (fields : List Field) :
    Decoded Schema :=
  match h : firstRepeated? [] (fields.map Field.id) with
  | some repeated => .reject (.duplicateId repeated id)
  | none =>
    .accepted { id, name, createdAt, fields
                ids_nodup := (nodup_of_firstRepeated?_eq_none h).1 }

def schema (entries : Record Value) : Decoded Schema :=
  ((fun id name createdAt fields => (id, name, createdAt, fields))
    <$> required text ⟨"id", none⟩ entries
    <*> required text ⟨"name", none⟩ entries
    <*> withDefault none (nullable stamp) ⟨"createdAt", some "created_at"⟩ entries
    <*> withDefault [] (listOf field) ⟨"fields", none⟩ entries).andThen
      fun (id, name, createdAt, fields) => schemaOf id name createdAt fields

end Decoding

end FormEngine
