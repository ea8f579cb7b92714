/-
  FormEngine/Proofs/Value/Writing.lean
  ====================================
  **Which values can be written as text.**

  Writing a value fails for one reason only: somewhere in it stands an integer with
  more digits than are converted.  Where that counts depends on the way of writing.
  A message displays everything that a value holds (`exists_display_iff`); the text
  of a form value shows a mapping by a fixed text, so what stands in a mapping is
  not met, unless the mapping stands in a set, which has no text of its own and is
  displayed (`exists_toText_iff`).
-/
import FormEngine.Proofs.Outcome
import FormEngine.Value.Conversion

namespace FormEngine

theorem Text.exists_writeDecimal_iff {n : Int} :
    (∃ s, writeDecimal n = .ok s) ↔ n.natAbs < Nat.pow 10 digitLimit := by
  by_cases short : n.natAbs < Nat.pow 10 digitLimit
  · exact iff_of_true ⟨_, writeDecimal_of_lt short⟩ short
  · rw [writeDecimal, if_neg short]
    constructor
    · rintro ⟨s, h⟩
      cases h
    · intro other
      exact absurd other short

namespace Value

/-! ### What stands in a value -/

/-- The values that stand directly in a value. -/
def parts : Value → List Value
  | .list _ items | .tuple _ items | .set _ items => items
  | .mapping _ entries => entries.map Prod.snd
  | _ => []

theorem sizeOf_lt_of_mem_parts {v part : Value} (member : part ∈ v.parts) :
    sizeOf part < sizeOf v := by
  cases v with
  | list i items | tuple i items | set i items =>
    have smaller : sizeOf part < sizeOf items := List.sizeOf_lt_of_mem member
    simp only [list.sizeOf_spec, tuple.sizeOf_spec, set.sizeOf_spec]
    omega
  | mapping i entries =>
    obtain ⟨⟨key, v⟩, entry, rfl⟩ := List.mem_map.mp member
    have smaller := List.sizeOf_lt_of_mem entry
    simp only [mapping.sizeOf_spec, Prod.mk.sizeOf_spec] at smaller ⊢
    omega
  | _ => cases member

/-- What holds of a value whenever it holds of its parts holds of every value. -/
theorem induction_parts {p : Value → Prop} (step : ∀ v, (∀ part ∈ v.parts, p part) → p v)
    (v : Value) : p v := by
  refine step v (fun part member => ?_)
  have smaller := sizeOf_lt_of_mem_parts member
  exact induction_parts step part
termination_by v

/-- The display of the value shows an integer with more digits than are converted. -/
inductive DisplaysOverlong : Value → Prop
  | number {n : Int} (long : ¬n.natAbs < Nat.pow 10 digitLimit) :
    DisplaysOverlong (.number (.int n))
  | inside {v part : Value} (member : part ∈ v.parts) (h : DisplaysOverlong part) :
    DisplaysOverlong v

/-- The text of the value shows an integer with more digits than are converted. -/
inductive WritesOverlong : Value → Prop
  | number {n : Int} (long : ¬n.natAbs < Nat.pow 10 digitLimit) : WritesOverlong (.number (.int n))
  | item {v item : Value} {items : List Value} (listed : v.items? = some items)
    (member : item ∈ items) (h : WritesOverlong item) : WritesOverlong v
  | element {i : Identity} {items : List Value} {item : Value} (member : item ∈ items)
    (h : DisplaysOverlong item) : WritesOverlong (.set i items)

theorem displaysOverlong_number_iff {n : Int} :
    DisplaysOverlong (.number (.int n)) ↔ ¬n.natAbs < Nat.pow 10 digitLimit := by
  constructor
  · intro h
    cases h with
    | number long => exact long
    | inside member _ => cases member
  · exact .number

theorem displaysOverlong_iff_parts {v : Value} (compound : ∀ n, v ≠ .number (.int n)) :
    v.DisplaysOverlong ↔ ∃ part ∈ v.parts, part.DisplaysOverlong := by
  constructor
  · intro h
    cases h with
    | number _ => exact absurd rfl (compound _)
    | inside member h => exact ⟨_, member, h⟩
  · rintro ⟨part, member, h⟩
    exact .inside member h

/-! ### Collections -/

theorem exists_displayItems_iff {items : List Value} :
    (∃ shown, displayItems items = .ok shown) ↔ ∀ v ∈ items, ∃ s, v.display = .ok s := by
  induction items with
  | nil => exact iff_of_true ⟨_, rfl⟩ (List.forall_mem_nil _)
  | cons v rest ih =>
    rw [displayItems, List.forall_mem_cons, ← ih]
    exact Except.exists_bind_eq_ok_iff (fun shown =>
      Except.exists_bind_eq_ok_iff_of_total (fun others => ⟨_, rfl⟩))

theorem exists_displayEntries_iff {entries : List (String × Value)} :
    (∃ shown, displayEntries entries = .ok shown) ↔
      ∀ v ∈ entries.map Prod.snd, ∃ s, v.display = .ok s := by
  induction entries with
  | nil => exact iff_of_true ⟨_, rfl⟩ (List.forall_mem_nil _)
  | cons entry rest ih =>
    rw [displayEntries, List.map_cons, List.forall_mem_cons, ← ih]
    exact Except.exists_bind_eq_ok_iff (fun shown =>
      Except.exists_bind_eq_ok_iff_of_total (fun others => ⟨_, rfl⟩))

theorem exists_itemTexts_iff {items : List Value} :
    (∃ texts, itemTexts items = .ok texts) ↔ ∀ v ∈ items, ∃ s, v.toText = .ok s := by
  induction items with
  | nil => exact iff_of_true ⟨_, rfl⟩ (List.forall_mem_nil _)
  | cons v rest ih =>
    rw [List.forall_mem_cons, ← ih]
    by_cases null : v = .null
    · subst null
      have blank : ∃ s, Value.null.toText = .ok s := ⟨_, rfl⟩
      rw [itemTexts, and_iff_right blank]
      exact Except.exists_bind_eq_ok_iff_of_total (fun others => ⟨_, rfl⟩)
    · rw [itemTexts]
      · exact Except.exists_bind_eq_ok_iff (fun shown =>
          Except.exists_bind_eq_ok_iff_of_total (fun others => ⟨_, rfl⟩))
      · exact null

/-! ### Values -/

theorem exists_display_number_iff (n : Number) :
    (∃ s, (Value.number n).display = .ok s) ↔ ¬(Value.number n).DisplaysOverlong := by
  cases n with
  | int n => rw [display, Text.exists_writeDecimal_iff, displaysOverlong_number_iff, not_not]
  | float x =>
    refine iff_of_true ⟨_, rfl⟩ (fun h => ?_)
    cases h with
    | inside member _ => cases member

/-- Apart from numbers a value is displayed exactly if its parts are. -/
theorem exists_display_iff_parts {v : Value} (compound : ∀ n, v ≠ .number n) :
    (∃ s, v.display = .ok s) ↔ ∀ part ∈ v.parts, ∃ s, part.display = .ok s := by
  cases v with
  | number n => exact absurd rfl (compound n)
  | list i items =>
    refine Iff.trans ?_ exists_displayItems_iff
    exact Except.exists_bind_eq_ok_iff_of_total (fun shown => ⟨_, rfl⟩)
  | tuple i items =>
    refine Iff.trans (Except.exists_bind_eq_ok_iff_of_total (fun shown => ?_))
      exists_displayItems_iff
    split
    · exact ⟨_, rfl⟩
    · exact ⟨_, rfl⟩
  | set i items =>
    refine Iff.trans (Except.exists_bind_eq_ok_iff_of_total (fun shown => ?_))
      exists_displayItems_iff
    split
    · exact ⟨_, rfl⟩
    · exact ⟨_, rfl⟩
  | mapping i entries =>
    refine Iff.trans ?_ exists_displayEntries_iff
    exact Except.exists_bind_eq_ok_iff_of_total (fun shown => ⟨_, rfl⟩)
  | null | bool | text | date | function =>
    exact iff_of_true ⟨_, rfl⟩ (List.forall_mem_nil _)

/-- A value can be displayed unless it shows an integer that is too long. -/
theorem exists_display_iff (v : Value) : (∃ s, v.display = .ok s) ↔ ¬v.DisplaysOverlong := by
  induction v using induction_parts with
  | step v ih =>
    by_cases number : ∃ n, v = .number n
    · obtain ⟨n, rfl⟩ := number
      exact exists_display_number_iff n
    · have compound : ∀ n, v ≠ .number n := not_exists.mp number
      rw [exists_display_iff_parts compound,
        displaysOverlong_iff_parts (fun n => compound (.int n))]
      rw [not_exists]
      simp only [not_and]
      exact forall₂_congr ih

theorem exists_toText_iff_items {v : Value} {items : List Value} (listed : v.items? = some items) :
    (∃ s, v.toText = .ok s) ↔ ∀ item ∈ items, ∃ s, item.toText = .ok s := by
  cases v with
  | list i items' | tuple i items' =>
    cases listed
    refine Iff.trans ?_ exists_itemTexts_iff
    exact Except.exists_bind_eq_ok_iff_of_total (fun texts => ⟨_, rfl⟩)
  | _ => cases listed

theorem writesOverlong_iff_items {v : Value} {items : List Value} (listed : v.items? = some items) :
    v.WritesOverlong ↔ ∃ item ∈ items, item.WritesOverlong := by
  constructor
  · intro h
    cases h with
    | number _ | element _ _ => cases listed
    | item listed' member h =>
      rw [listed] at listed'
      cases listed'
      exact ⟨_, member, h⟩
  · rintro ⟨item, member, h⟩
    exact .item listed member h

theorem writesOverlong_set_iff {i : Identity} {items : List Value} :
    WritesOverlong (.set i items) ↔ DisplaysOverlong (.set i items) := by
  constructor
  · intro h
    cases h with
    | item listed _ _ => cases listed
    | element member h => exact .inside member h
  · intro h
    cases h with
    | inside member h => exact .element member h

theorem exists_toText_number_iff (n : Number) :
    (∃ s, (Value.number n).toText = .ok s) ↔ ¬(Value.number n).WritesOverlong := by
  cases n with
  | int n =>
    have short : WritesOverlong (.number (.int n)) ↔ ¬n.natAbs < Nat.pow 10 digitLimit := by
      constructor
      · intro h
        cases h with
        | number long => exact long
        | item listed _ _ => cases listed
      · exact .number
    rw [short, not_not, toText, Number.text, Text.exists_writeDecimal_iff]
  | float x =>
    refine iff_of_true ⟨_, rfl⟩ (fun h => ?_)
    cases h with
    | item listed _ _ => cases listed

/-- A value has a text unless the text shows an integer that is too long. -/
theorem exists_toText_iff (v : Value) : (∃ s, v.toText = .ok s) ↔ ¬v.WritesOverlong := by
  induction v using induction_parts with
  | step v ih =>
    cases v with
    | number n => exact exists_toText_number_iff n
    | list i items | tuple i items =>
      rw [exists_toText_iff_items rfl, writesOverlong_iff_items rfl, not_exists]
      simp only [not_and]
      exact forall₂_congr ih
    | set i items =>
      rw [writesOverlong_set_iff]
      exact exists_display_iff (.set i items)
    | null | bool | text | mapping | date | function =>
      refine iff_of_true ⟨_, rfl⟩ (fun h => ?_)
      cases h with
      | item listed _ _ => cases listed

end Value

end FormEngine
