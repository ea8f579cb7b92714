/-
  FormEngine/Proofs/Derived/Dependency.lean
  =========================================
  **The dependency relation between derived fields**, said without the graph.

  A derived field depends on those of its parents that are derived themselves.
  Cycles, the fields that reach one, and orders that put parents first are notions
  of this relation alone; the walk over the graph is measured against them
  (`Proofs/Derived/Walk`, `Proofs/Derived/Resolution`).

  The graph that is built from fields with distinct ids has those ids as its names,
  in declaration order, and the same dependencies (`names_ofFields`,
  `dependsOn_ofFields`).
-/
import FormEngine.Derived.Graph
import Mathlib.Logic.Relation

namespace FormEngine

open Relation

/-! ### The relation -/

section Relation

variable (fields : List (String × List String))

/-- `x` names `y` among its parents, and `y` is one of the fields itself. -/
def DependsOn (x y : String) : Prop :=
  (∃ parents, (x, parents) ∈ fields ∧ y ∈ parents) ∧ y ∈ fields.map Prod.fst

/-- Following parents from `x` leads back to `x`; a field that is its own parent is on a cycle. -/
def OnCycle (x : String) : Prop := TransGen (DependsOn fields) x x

/-- Following parents from `x` leads to a cycle: `x` is on one, or depends on it. -/
def ReachesCycle (x : String) : Prop :=
  ∃ y, ReflTransGen (DependsOn fields) x y ∧ OnCycle fields y

/-- Every field of the order stands after all fields that it depends on. -/
def ParentsFirst (order : List String) : Prop :=
  ∀ before x after, order = before ++ x :: after → ∀ y, DependsOn fields x y → y ∈ before

end Relation

section

variable {fields : List (String × List String)} {x y : String}

theorem DependsOn.mem_left (h : DependsOn fields x y) : x ∈ fields.map Prod.fst := by
  obtain ⟨⟨parents, member, _⟩, _⟩ := h
  exact List.mem_map_of_mem member

theorem OnCycle.mem (h : OnCycle fields x) : x ∈ fields.map Prod.fst := by
  obtain ⟨_, step, _⟩ := TransGen.head'_iff.mp h
  exact step.mem_left

theorem OnCycle.reachesCycle (h : OnCycle fields x) : ReachesCycle fields x :=
  ⟨x, ReflTransGen.refl, h⟩

theorem ReachesCycle.mem (h : ReachesCycle fields x) : x ∈ fields.map Prod.fst := by
  obtain ⟨y, path, cycle⟩ := h
  rcases path.cases_head with rfl | ⟨_, step, _⟩
  · exact cycle.mem
  · exact step.mem_left

theorem ReachesCycle.of_dependsOn (step : DependsOn fields x y) (h : ReachesCycle fields y) :
    ReachesCycle fields x := by
  obtain ⟨z, path, cycle⟩ := h
  exact ⟨z, path.head step, cycle⟩

/-- A field in a parents-first order does not depend on what stands at its own place or later. -/
theorem ParentsFirst.not_dependsOn {before after : List String}
    (first : ParentsFirst fields (before ++ x :: after)) (distinct : (before ++ x :: after).Nodup)
    (h : y ∈ x :: after) : ¬ DependsOn fields x y := by
  intro step
  have earlier : y ∈ before := first before x after rfl y step
  exact (List.nodup_append.mp distinct).2.2 y earlier y h rfl

end

/-! ### The graph of a list of fields -/

namespace DependencyGraph

theorem mem_distinct {x : String} {seen xs : List String} :
    x ∈ distinct seen xs ↔ x ∈ xs ∧ x ∉ seen := by
  induction xs generalizing seen with
  | nil => simp [distinct]
  | cons y xs ih =>
    by_cases known : y ∈ seen
    · simp only [distinct, if_pos known, ih, List.mem_cons]
      constructor
      · rintro ⟨member, fresh⟩
        exact ⟨Or.inr member, fresh⟩
      · rintro ⟨rfl | member, fresh⟩
        · exact absurd known fresh
        · exact ⟨member, fresh⟩
    · simp only [distinct, if_neg known, ih, List.mem_cons]
      constructor
      · rintro (rfl | ⟨member, fresh⟩)
        · exact ⟨Or.inl rfl, known⟩
        · exact ⟨Or.inr member, fun h => fresh (Or.inr h)⟩
      · rintro ⟨rfl | member, fresh⟩
        · exact Or.inl rfl
        · by_cases same : x = y
          · exact Or.inl same
          · exact Or.inr ⟨member, by simp [same, fresh]⟩

theorem firstEntries_eq_self {seen : List String} {entries : List (String × List String)}
    (distinct : (entries.map Prod.fst).Nodup) (fresh : ∀ x ∈ entries.map Prod.fst, x ∉ seen) :
    firstEntries seen entries = entries := by
  induction entries generalizing seen with
  | nil => rfl
  | cons e entries ih =>
    rw [List.map_cons, List.nodup_cons] at distinct
    have isNew : e.1 ∉ seen := fresh e.1 List.mem_cons_self
    have rest : firstEntries (e.1 :: seen) entries = entries := by
      refine ih distinct.2 (fun x member => ?_)
      rw [List.mem_cons, not_or]
      constructor
      · rintro rfl
        exact distinct.1 member
      · exact fresh x (List.mem_cons_of_mem _ member)
    rw [firstEntries, if_neg isNew, rest]

variable {fields : List (String × List String)}

/-- The derived parents of one field, each once. -/
def derivedParents (fields : List (String × List String)) (parents : List String) : List String :=
  distinct [] (parents.filter (fun p => (fields.map Prod.fst).contains p))

theorem mem_derivedParents {y : String} {parents : List String} :
    y ∈ derivedParents fields parents ↔ y ∈ parents ∧ y ∈ fields.map Prod.fst := by
  simp [derivedParents, mem_distinct]

theorem ofFields_eq_map (distinct : (fields.map Prod.fst).Nodup) :
    ofFields fields = fields.map (fun e => (e.1, derivedParents fields e.2)) := by
  refine firstEntries_eq_self ?_ (fun x _ => List.not_mem_nil)
  rw [List.map_map]
  exact distinct

theorem names_ofFields (distinct : (fields.map Prod.fst).Nodup) :
    (ofFields fields).names = fields.map Prod.fst := by
  rw [ofFields_eq_map distinct, Record.names, List.map_map]
  rfl

theorem dependsOn_ofFields (distinct : (fields.map Prod.fst).Nodup) :
    DependsOn (ofFields fields) = DependsOn fields := by
  have names : (ofFields fields).map Prod.fst = fields.map Prod.fst := names_ofFields distinct
  funext x y
  rw [DependsOn, DependsOn, names, ofFields_eq_map distinct]
  refine propext (and_congr_left (fun isField => ?_))
  constructor
  · rintro ⟨_, member, listed⟩
    obtain ⟨⟨z, parents⟩, entry, same⟩ := List.mem_map.mp member
    cases same
    exact ⟨parents, entry, (mem_derivedParents.mp listed).1⟩
  · rintro ⟨parents, entry, listed⟩
    exact ⟨derivedParents fields parents, List.mem_map.mpr ⟨(x, parents), entry, rfl⟩,
      mem_derivedParents.mpr ⟨listed, isField⟩⟩

end DependencyGraph

end FormEngine
