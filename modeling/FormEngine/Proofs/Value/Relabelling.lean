/-
  FormEngine/Proofs/Value/Relabelling.lean
  ========================================
  **Values up to the objects they consist of.**

  Which object a compound value is shows only where two of them are asked to be the
  same.  So if every identity in a value is replaced (`Value.relabel`), its text, its
  number and its truth stay, and if different identities remain different, the
  equalities and the order of two such values stay as well.
-/
import FormEngine.Proofs.Outcome
import FormEngine.Record
import FormEngine.Value.Comparison
import Mathlib.Logic.Equiv.Basic

namespace FormEngine

/-! ### Identities and occasions -/

namespace Identity

/-- The occasion on which an evaluation made the object. -/
def occasion? : Identity → Option Occasion
  | .literal _ occasion | .result occasion => some occasion
  | .read _ _ | .initial _ _ => none

/-- The object that takes the place of this one if evaluations take place on other occasions. -/
def onOccasion (π : Occasion → Occasion) : Identity → Identity
  | .literal path occasion => .literal path (π occasion)
  | .result occasion => .result (π occasion)
  | .read document position => .read document position
  | .initial time field => .initial time field

theorem onOccasion_injective {π : Occasion → Occasion} (injective : Function.Injective π) :
    Function.Injective (onOccasion π) := by
  intro i j same
  cases i with
  | read | initial => cases j <;> simp_all [onOccasion]
  | literal | result => cases j <;> simp_all [onOccasion, injective.eq_iff]

theorem onOccasion_eq_self {π : Occasion → Occasion} {i : Identity}
    (fixed : ∀ occasion, i.occasion? = some occasion → π occasion = occasion) :
    i.onOccasion π = i := by
  cases i with
  | read | initial => rfl
  | literal path occasion => rw [onOccasion, fixed occasion rfl]
  | result occasion => rw [onOccasion, fixed occasion rfl]

/-- The replacement takes different objects to different ones, and the lists that are made on the
    one occasion to those that are made on the other. -/
structure Carries (ρ : Identity → Identity) (occasion occasion' : Occasion) : Prop where
  injective : Function.Injective ρ
  literal : ∀ path, ρ (.literal path occasion) = .literal path occasion'
  result : ρ (.result occasion) = .result occasion'

theorem carries_onOccasion {π : Occasion → Occasion} (injective : Function.Injective π)
    (occasion : Occasion) : Carries (onOccasion π) occasion (π occasion) :=
  ⟨onOccasion_injective injective, fun _ => rfl, rfl⟩

theorem carries_swap (occasion occasion' : Occasion) :
    Carries (onOccasion (Equiv.swap occasion occasion')) occasion occasion' := by
  have carries := carries_onOccasion (Equiv.swap occasion occasion').injective occasion
  rwa [Equiv.swap_apply_left] at carries

end Identity

/-- The occasion with two times exchanged. -/
def Occasion.retime (time time' : Nat) (occasion : Occasion) : Occasion :=
  { occasion with time := Equiv.swap time time' occasion.time }

theorem Occasion.retime_injective (time time' : Nat) :
    Function.Injective (Occasion.retime time time') := by
  rintro ⟨first, field⟩ ⟨second, field'⟩ same
  simpa [Occasion.retime] using same

theorem Identity.carries_retime (time time' : Nat) (field : String) :
    Carries (onOccasion (Occasion.retime time time')) ⟨time, field⟩ ⟨time', field⟩ := by
  have carries := carries_onOccasion (Occasion.retime_injective time time') ⟨time, field⟩
  rwa [Occasion.retime, Equiv.swap_apply_left] at carries

namespace Value

/-! ### Relabelled values -/

mutual

/-- The value with each identity replaced. -/
def relabel (ρ : Identity → Identity) : Value → Value
  | .null => .null
  | .bool b => .bool b
  | .number n => .number n
  | .text s => .text s
  | .list i items => .list (ρ i) (relabelItems ρ items)
  | .tuple i items => .tuple (ρ i) (relabelItems ρ items)
  | .set i items => .set (ρ i) (relabelItems ρ items)
  | .mapping i entries => .mapping (ρ i) (relabelEntries ρ entries)
  | .date i iso => .date (ρ i) iso
  | .function i => .function (ρ i)

def relabelItems (ρ : Identity → Identity) : List Value → List Value
  | [] => []
  | v :: rest => v.relabel ρ :: relabelItems ρ rest

def relabelEntries (ρ : Identity → Identity) : List (String × Value) → List (String × Value)
  | [] => []
  | (key, v) :: rest => (key, v.relabel ρ) :: relabelEntries ρ rest

end

mutual

/-- The identities of all objects inside. -/
def identities : Value → List Identity
  | .null | .bool _ | .number _ | .text _ => []
  | .list i items | .tuple i items | .set i items => i :: itemIdentities items
  | .mapping i entries => i :: entryIdentities entries
  | .date i _ | .function i => [i]

def itemIdentities : List Value → List Identity
  | [] => []
  | v :: rest => v.identities ++ itemIdentities rest

def entryIdentities : List (String × Value) → List Identity
  | [] => []
  | (_, v) :: rest => v.identities ++ entryIdentities rest

end

variable {ρ σ : Identity → Identity} {v w : Value} {items : List Value}

theorem relabelItems_eq_map (items : List Value) :
    relabelItems ρ items = items.map (relabel ρ) := by
  induction items with
  | nil => rfl
  | cons v items ih => rw [relabelItems, ih, List.map_cons]

theorem identity?_relabel (v : Value) : (v.relabel ρ).identity? = v.identity?.map ρ := by
  cases v <;> rfl

theorem items?_relabel (v : Value) :
    (v.relabel ρ).items? = v.items?.map (List.map (relabel ρ)) := by
  cases v with
  | list i items | tuple i items =>
    rw [relabel, items?, items?, Option.map_some, relabelItems_eq_map]
  | _ => rfl

@[simp] theorem isNull_relabel (v : Value) : (v.relabel ρ).isNull = v.isNull := by cases v <;> rfl

@[simp] theorem isContainer_relabel (v : Value) : (v.relabel ρ).isContainer = v.isContainer := by
  cases v <;> rfl

@[simp] theorem isScalar_relabel (v : Value) : (v.relabel ρ).isScalar = v.isScalar := by
  cases v <;> rfl

@[simp] theorem isEmpty_relabel (v : Value) : (v.relabel ρ).isEmpty = v.isEmpty := by
  cases v with
  | list i items | tuple i items | set i items => cases items <;> rfl
  | mapping i entries => cases entries <;> rfl
  | _ => rfl

/-! ### Unchanged values -/

mutual

/-- A value stays if the replacement leaves its identities alone. -/
theorem relabel_eq_self (v : Value) (fixed : ∀ i ∈ v.identities, ρ i = i) : v.relabel ρ = v := by
  cases v with
  | null | bool | number | text => rfl
  | list i items | tuple i items | set i items =>
    rw [identities, List.forall_mem_cons] at fixed
    rw [relabel, fixed.1, relabelItems_eq_self items fixed.2]
  | mapping i entries =>
    rw [identities, List.forall_mem_cons] at fixed
    rw [relabel, fixed.1, relabelEntries_eq_self entries fixed.2]
  | date i iso => rw [relabel, fixed i (by simp [identities])]
  | function i => rw [relabel, fixed i (by simp [identities])]

theorem relabelItems_eq_self (items : List Value) (fixed : ∀ i ∈ itemIdentities items, ρ i = i) :
    relabelItems ρ items = items := by
  cases items with
  | nil => rfl
  | cons v rest =>
    rw [itemIdentities, List.forall_mem_append] at fixed
    rw [relabelItems, relabel_eq_self v fixed.1, relabelItems_eq_self rest fixed.2]

theorem relabelEntries_eq_self (entries : List (String × Value))
    (fixed : ∀ i ∈ entryIdentities entries, ρ i = i) : relabelEntries ρ entries = entries := by
  cases entries with
  | nil => rfl
  | cons e rest =>
    obtain ⟨key, v⟩ := e
    rw [entryIdentities, List.forall_mem_append] at fixed
    rw [relabelEntries, relabel_eq_self v fixed.1, relabelEntries_eq_self rest fixed.2]

end

/-! ### Exchanged occasions -/

/-- No list inside was made on the occasion. -/
def Lacks (v : Value) (occasion : Occasion) : Prop :=
  ∀ i ∈ v.identities, i.occasion? ≠ some occasion

/-- The value with two occasions exchanged: a list made on the one stands where one made on the
    other stood. -/
def exchange (occasion occasion' : Occasion) (v : Value) : Value :=
  v.relabel (Identity.onOccasion (Equiv.swap occasion occasion'))

theorem exchange_eq_self {occasion occasion' : Occasion} (lacks : v.Lacks occasion)
    (lacks' : v.Lacks occasion') : v.exchange occasion occasion' = v := by
  refine relabel_eq_self v (fun i member => Identity.onOccasion_eq_self (fun other made => ?_))
  refine Equiv.swap_apply_of_ne_of_ne ?_ ?_
  · rintro rfl
    exact lacks i member made
  · rintro rfl
    exact lacks' i member made

/-! ### Exchanged times -/

/-- No list inside was made by an evaluation at that time. -/
def LacksTime (v : Value) (time : Nat) : Prop := ∀ field, v.Lacks ⟨time, field⟩

/-- The value with two times exchanged. -/
def retime (time time' : Nat) (v : Value) : Value :=
  v.relabel (Identity.onOccasion (Occasion.retime time time'))

theorem retime_eq_self {time time' : Nat} (lacks : v.LacksTime time) (lacks' : v.LacksTime time') :
    v.retime time time' = v := by
  refine relabel_eq_self v (fun i member => Identity.onOccasion_eq_self (fun other made => ?_))
  refine congrArg (Occasion.mk · other.field) (Equiv.swap_apply_of_ne_of_ne ?_ ?_)
  · rintro rfl
    exact lacks other.field i member made
  · rintro rfl
    exact lacks' other.field i member made

/-- After some time, no evaluation has made any list inside. -/
theorem exists_lacksTime (v : Value) : ∃ bound, ∀ time, bound ≤ time → v.LacksTime time := by
  have bounded : ∀ is : List Identity, ∃ bound, ∀ time, bound ≤ time → ∀ i ∈ is, ∀ field,
      i.occasion? ≠ some ⟨time, field⟩ := by
    intro is
    induction is with
    | nil => exact ⟨0, by simp⟩
    | cons i is ih =>
      obtain ⟨bound, later⟩ := ih
      refine ⟨max bound ((i.occasion?.map Occasion.time).getD 0 + 1), fun time after => ?_⟩
      rw [List.forall_mem_cons]
      constructor
      · intro field made
        simp only [made, Option.map_some, Option.getD_some] at after
        omega
      · exact later time (by omega)
  obtain ⟨bound, later⟩ := bounded v.identities
  exact ⟨bound, fun time after field i member => later time after i member field⟩

/-! ### Conversions -/

mutual

theorem display_relabel (v : Value) : (v.relabel ρ).display = v.display := by
  cases v with
  | null | bool | number | text | date | function => rfl
  | list i items | tuple i items | set i items =>
    rw [relabel, display, display, displayItems_relabelItems items]
  | mapping i entries => rw [relabel, display, display, displayEntries_relabelEntries entries]

theorem displayItems_relabelItems (items : List Value) :
    displayItems (relabelItems ρ items) = displayItems items := by
  cases items with
  | nil => rfl
  | cons v rest =>
    rw [relabelItems, displayItems, displayItems, display_relabel v, displayItems_relabelItems rest]

theorem displayEntries_relabelEntries (entries : List (String × Value)) :
    displayEntries (relabelEntries ρ entries) = displayEntries entries := by
  cases entries with
  | nil => rfl
  | cons e rest =>
    obtain ⟨key, v⟩ := e
    rw [relabelEntries, displayEntries, displayEntries, display_relabel v,
      displayEntries_relabelEntries rest]

end

mutual

/-- The text of a value does not show which object it is. -/
theorem toText_relabel (v : Value) : (v.relabel ρ).toText = v.toText := by
  cases v with
  | null | bool | number | text | mapping | date | function => rfl
  | list i items | tuple i items =>
    rw [relabel, toText, toText, itemTexts_relabelItems items]
  | set i items =>
    rw [relabel, toText, toText]
    exact display_relabel (.set i items)

theorem itemTexts_relabelItems (items : List Value) :
    itemTexts (relabelItems ρ items) = itemTexts items := by
  cases items with
  | nil => rfl
  | cons v rest =>
    have shown := toText_relabel v
    have others := itemTexts_relabelItems rest
    rw [relabelItems]
    cases v with
    | null => rw [relabel, itemTexts, itemTexts, others]
    | _ =>
      rw [relabel] at shown ⊢
      rw [itemTexts, itemTexts, shown, others]
      · exact nofun
      · exact nofun

end

theorem toNumber_relabel (v : Value) : (v.relabel ρ).toNumber = v.toNumber := by
  cases v with
  | list i items | tuple i items =>
    rcases items with _ | ⟨item, _ | ⟨second, rest⟩⟩
    · rfl
    · change (do Number.ofText (← (item.relabel ρ).toText)) = _
      rw [toText_relabel]
      rfl
    · rfl
  | _ => rfl

theorem isTruthy_relabel (v : Value) : (v.relabel ρ).isTruthy = v.isTruthy := by
  cases v <;> rfl

theorem toPrimitive_relabel (v : Value) :
    (v.relabel ρ).toPrimitive = v.toPrimitive.map (relabel ρ) := by
  have shown := toText_relabel (ρ := ρ) v
  cases v with
  | list i items | tuple i items | mapping i entries | date i iso =>
    rw [relabel] at shown ⊢
    rw [toPrimitive, toPrimitive, shown]
    generalize Value.toText _ = text
    cases text <;> rfl
  | _ => rfl

/-! ### Comparisons -/

section Injective

variable (injective : Function.Injective ρ)
include injective

theorem sameObject_relabel (v w : Value) :
    (v.relabel ρ).sameObject (w.relabel ρ) = v.sameObject w := by
  simp only [sameObject, identity?_relabel]
  cases v.identity? <;> cases w.identity? <;> simp [injective.eq_iff]

theorem strictEquals_relabel (v w : Value) :
    (v.relabel ρ).strictEquals (w.relabel ρ) = v.strictEquals w := by
  have objects := sameObject_relabel injective v w
  cases v <;> cases w <;> first | rfl | exact objects

theorem scalarEquals_relabel (v w : Value) :
    scalarEquals (v.relabel ρ) (w.relabel ρ) = scalarEquals v w := by
  have objects := congrArg (Except.ok (ε := NumeralError)) (sameObject_relabel injective v w)
  cases v <;> cases w <;> first | rfl | exact objects

omit injective in
theorem boolAsNumber_relabel (v : Value) :
    (v.relabel ρ).boolAsNumber = v.boolAsNumber.relabel ρ := by
  cases v <;> rfl

theorem looseEquals_relabel (v w : Value) :
    (v.relabel ρ).looseEquals (w.relabel ρ) = v.looseEquals w := by
  simp only [looseEquals, isNull_relabel, boolAsNumber_relabel, isContainer_relabel,
    sameObject_relabel injective, toPrimitive_relabel, Except.map_bind,
    scalarEquals_relabel injective]

omit injective in
theorem compare_relabel (v w : Value) :
    (v.relabel ρ).compare (w.relabel ρ) = v.compare w := by
  simp only [compare, toPrimitive_relabel, Except.map_bind]
  refine bind_congr (fun p => bind_congr (fun q => ?_))
  have numbers : (do return (← (p.relabel ρ).toNumber).compare? (← (q.relabel ρ).toNumber)) =
      (do return (← p.toNumber).compare? (← q.toNumber)) := by
    rw [toNumber_relabel, toNumber_relabel]
  cases p <;> cases q <;> first | rfl | exact numbers

end Injective

end Value

/-! ### Records of values -/

namespace Record

variable {values : Record Value} {time time' : Nat} {id : String} {v : Value}

/-- No list in the record was made by an evaluation at that time. -/
def LacksTime (values : Record Value) (time : Nat) : Prop := ∀ e ∈ values, e.2.LacksTime time

theorem LacksTime.get? (lacks : values.LacksTime time) (found : values.get? id = some v) :
    v.LacksTime time :=
  lacks (id, v) (mem_of_get? found)

theorem get?_mapValues_retime (lacks : ∀ v, values.get? id = some v →
      v.LacksTime time ∧ v.LacksTime time') :
    (values.mapValues (Value.retime time time')).get? id = values.get? id := by
  rw [get?_mapValues]
  cases found : values.get? id with
  | none => rfl
  | some v =>
    obtain ⟨first, second⟩ := lacks v found
    exact congrArg some (Value.retime_eq_self first second)

theorem mapValues_retime_eq_self (lacks : values.LacksTime time) (lacks' : values.LacksTime time') :
    values.mapValues (Value.retime time time') = values := by
  refine (List.map_congr_left (fun e member => ?_)).trans (List.map_id values)
  exact congrArg (Prod.mk e.1) (Value.retime_eq_self (lacks e member) (lacks' e member))

/-- Texts, numbers and other scalars are no lists. -/
theorem lacksTime_of_identities_nil (noObjects :
      values.all (fun e => e.2.identities.isEmpty) = true) (time : Nat) :
    values.LacksTime time := by
  intro e member field i inside
  have none := List.all_eq_true.mp noObjects e member
  rw [List.isEmpty_iff.mp none] at inside
  cases inside

/-- There is always a time that is new to a record. -/
theorem exists_lacksTime (values : Record Value) :
    ∃ bound, ∀ time, bound ≤ time → values.LacksTime time := by
  induction values with
  | nil => exact ⟨0, fun _ _ => by simp [LacksTime]⟩
  | cons e values ih =>
    obtain ⟨bound, later⟩ := ih
    obtain ⟨bound', later'⟩ := e.2.exists_lacksTime
    refine ⟨max bound bound', fun time after => ?_⟩
    rw [LacksTime, List.forall_mem_cons]
    exact ⟨later' time (by omega), later time (by omega)⟩

end Record

end FormEngine
