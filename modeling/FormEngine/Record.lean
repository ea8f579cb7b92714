/-
  FormEngine/Record.lean
  ======================
  **Records**: entries under names, in the order in which the names first came.

  Value maps, error maps and the variables of an expression are records.  Writing
  under a name that is present replaces the entry where it stands; a new name goes
  to the end.
-/

namespace FormEngine

/-- Entries under names, in order of arrival. -/
abbrev Record (α : Type) := List (String × α)

namespace Record

variable {α β : Type}

/-- The entry under a name. -/
def get? : Record α → String → Option α
  | [], _ => none
  | (other, a) :: r, name => if other = name then some a else get? r name

/-- The name has an entry. -/
def has (r : Record α) (name : String) : Bool := (r.get? name).isSome

/-- The names, in order. -/
def names (r : Record α) : List String := r.map (·.1)

/-- Writes an entry under a name. -/
def set : Record α → String → α → Record α
  | [], name, a => [(name, a)]
  | (other, b) :: r, name, a =>
    if other = name then (other, a) :: r else (other, b) :: set r name a

/-- Writes all entries of the second record into the first, in order. -/
def overlay (r s : Record α) : Record α := s.foldl (fun r e => set r e.1 e.2) r

/-- The record of a sequence of entries; the last of several under one name counts, at the
    place of the first. -/
def ofEntries (entries : List (String × α)) : Record α := overlay [] entries

/-- Changes every entry. -/
def mapValues (f : α → β) (r : Record α) : Record β := r.map (fun e => (e.1, f e.2))

@[simp] theorem get?_nil (name : String) : get? ([] : Record α) name = none := rfl

theorem get?_cons (name other : String) (a : α) (r : Record α) :
    get? ((other, a) :: r) name = if other = name then some a else get? r name := rfl

/-- The entry just written is there. -/
theorem get?_set_self (r : Record α) (name : String) (a : α) :
    (r.set name a).get? name = some a := by
  induction r with
  | nil => simp [set, get?_cons]
  | cons e r ih =>
    obtain ⟨other, b⟩ := e
    by_cases h : other = name
    · simp [set, h, get?_cons]
    · simp only [set, h, if_false, get?_cons]
      exact ih

/-- Entries under other names stay. -/
theorem get?_set_of_ne (r : Record α) {name other : String} (a : α) (h : other ≠ name) :
    (r.set name a).get? other = r.get? other := by
  induction r with
  | nil => simp [set, get?_cons, Ne.symm h]
  | cons e r ih =>
    obtain ⟨third, b⟩ := e
    by_cases ht : third = name
    · subst ht
      simp [set, get?_cons, Ne.symm h]
    · simp only [set, ht, if_false, get?_cons]
      rw [ih]

/-- What an entry reads after a write. -/
theorem get?_set (r : Record α) (name other : String) (a : α) :
    (r.set name a).get? other = if other = name then some a else r.get? other := by
  by_cases h : other = name
  · rw [if_pos h, h, get?_set_self]
  · rw [if_neg h, get?_set_of_ne r a h]

/-- Writing what is there already changes nothing. -/
theorem set_eq_self {r : Record α} {name : String} {a : α} (h : r.get? name = some a) :
    r.set name a = r := by
  induction r with
  | nil => cases h
  | cons e r ih =>
    obtain ⟨other, b⟩ := e
    rw [get?_cons] at h
    by_cases hn : other = name
    · rw [if_pos hn, Option.some.injEq] at h
      simp [set, hn, h]
    · rw [if_neg hn] at h
      simp [set, hn, ih h]

/-- An entry that is found is one of the record. -/
theorem mem_of_get? {r : Record α} {name : String} {a : α} (h : r.get? name = some a) :
    (name, a) ∈ r := by
  induction r with
  | nil => cases h
  | cons e r ih =>
    obtain ⟨other, b⟩ := e
    rw [get?_cons] at h
    by_cases hn : other = name
    · rw [if_pos hn, Option.some.injEq] at h
      rw [hn, h]
      exact List.mem_cons_self
    · rw [if_neg hn] at h
      exact List.mem_cons_of_mem _ (ih h)

/-- A changed record has, under each name, the changed entry. -/
theorem get?_mapValues (f : α → β) (r : Record α) (name : String) :
    (r.mapValues f).get? name = (r.get? name).map f := by
  induction r with
  | nil => rfl
  | cons e r ih =>
    obtain ⟨other, a⟩ := e
    by_cases h : other = name
    · simp [mapValues, get?_cons, h]
    · simp only [mapValues, List.map_cons, get?_cons, h, if_false]
      exact ih

theorem has_mapValues (f : α → β) (r : Record α) (name : String) :
    (r.mapValues f).has name = r.has name := by
  rw [has, has, get?_mapValues, Option.isSome_map]

theorem names_mapValues (f : α → β) (r : Record α) : (r.mapValues f).names = r.names := by
  rw [names, names, mapValues, List.map_map]
  rfl

/-- Changing every entry after a write changes what was written. -/
theorem mapValues_set (f : α → β) (r : Record α) (name : String) (a : α) :
    (r.set name a).mapValues f = (r.mapValues f).set name (f a) := by
  induction r with
  | nil => rfl
  | cons e r ih =>
    obtain ⟨other, b⟩ := e
    by_cases h : other = name
    · simp [set, mapValues, h]
    · simp only [mapValues] at ih
      simp [set, mapValues, h, ih]

theorem mapValues_overlay (f : α → β) (r s : Record α) :
    (r.overlay s).mapValues f = (r.mapValues f).overlay (s.mapValues f) := by
  induction s generalizing r with
  | nil => rfl
  | cons e s ih =>
    have rest := ih (r.set e.1 e.2)
    rw [mapValues_set] at rest
    exact rest

/-- With distinct names, the entries are exactly what is found under them. -/
theorem get?_eq_some_iff {r : Record α} (distinct : r.names.Nodup) {name : String} {a : α} :
    r.get? name = some a ↔ (name, a) ∈ r := by
  constructor
  · exact mem_of_get?
  · intro member
    induction r with
    | nil => cases member
    | cons e r ih =>
      obtain ⟨other, b⟩ := e
      simp only [names, List.map_cons, List.nodup_cons] at distinct
      rw [get?_cons]
      rcases List.mem_cons.mp member with same | member
      · cases same
        exact if_pos rfl
      · have isOther : other ≠ name := by
          rintro rfl
          exact distinct.1 (List.mem_map_of_mem member)
        rw [if_neg isOther]
        exact ih distinct.2 member

/-- A name has an entry exactly if it is among the names. -/
theorem has_iff_mem_names (r : Record α) (name : String) : r.has name = true ↔ name ∈ r.names := by
  induction r with
  | nil => simp [has, names]
  | cons e r ih =>
    obtain ⟨other, a⟩ := e
    by_cases h : other = name
    · simp [has, get?_cons, h, names]
    · have hn : ¬ name = other := fun e => h e.symm
      simp only [has, get?_cons, h, if_false]
      simpa [names, has, hn] using ih

theorem exists_get?_of_mem {r : Record α} {name : String} (h : name ∈ r.names) :
    ∃ a, r.get? name = some a :=
  Option.isSome_iff_exists.mp ((has_iff_mem_names r name).mpr h)

theorem get?_eq_none_of_not_mem {r : Record α} {name : String} (h : name ∉ r.names) :
    r.get? name = none := by
  rw [← has_iff_mem_names, has] at h
  simpa using h

/-- Records with the same distinct names in the same order are equal if they have the same entry
    under every name. -/
theorem eq_of_get?_eq {r t : Record α} (order : r.names = t.names) (distinct : r.names.Nodup)
    (same : ∀ name, r.get? name = t.get? name) : r = t := by
  induction r generalizing t with
  | nil =>
    cases t with
    | nil => rfl
    | cons e t => cases order
  | cons e r ih =>
    cases t with
    | nil => cases order
    | cons f t =>
      obtain ⟨name, a⟩ := e
      obtain ⟨other, b⟩ := f
      simp only [names, List.map_cons, List.cons.injEq] at order
      simp only [names, List.map_cons, List.nodup_cons] at distinct
      obtain ⟨rfl, order⟩ := order
      have first : a = b := by
        have entry := same name
        rw [get?_cons, get?_cons, if_pos rfl, if_pos rfl, Option.some.injEq] at entry
        exact entry
      have rest : r = t := by
        refine ih order distinct.2 (fun third => ?_)
        by_cases h : name = third
        · subst h
          have absent : name ∉ names t := by
            intro member
            rw [names, ← order] at member
            exact distinct.1 member
          rw [get?_eq_none_of_not_mem distinct.1, get?_eq_none_of_not_mem absent]
        · have entry := same third
          rw [get?_cons, get?_cons, if_neg h, if_neg h] at entry
          exact entry
      rw [first, rest]

/-- Writing under a present name keeps the names. -/
theorem names_set_of_mem (r : Record α) {name : String} (a : α) (h : name ∈ r.names) :
    (r.set name a).names = r.names := by
  induction r with
  | nil => simp [names] at h
  | cons e r ih =>
    obtain ⟨other, b⟩ := e
    by_cases hn : other = name
    · simp [set, hn, names]
    · have hm : name ∈ names r := by
        simp only [names, List.map_cons, List.mem_cons] at h
        rcases h with h | h
        · exact absurd h.symm hn
        · exact h
      have := ih hm
      simp only [names] at this
      simp [set, hn, names, this]

/-- Writing under a new name puts it at the end. -/
theorem names_set_of_not_mem (r : Record α) {name : String} (a : α) (h : name ∉ r.names) :
    (r.set name a).names = r.names ++ [name] := by
  induction r with
  | nil => rfl
  | cons e r ih =>
    obtain ⟨other, b⟩ := e
    simp only [names, List.map_cons, List.mem_cons, not_or] at h
    have hn : ¬ other = name := fun e => h.1 e.symm
    have := ih h.2
    simp only [names] at this
    simp [set, hn, names, this]

end Record

end FormEngine
