/-
  FormEngine/Proofs/Derived/Locality.lean
  =======================================
  **A derived field depends on what is upstream of it, and on nothing else.**

  Upstream of a field is what following parents leads to, through derived fields
  and up to those that are not computed, the field itself included: a computation
  that fails leaves a field its old value, which its children then read.  Two
  recomputations that begin with the same values upstream of a field come to the
  same value and the same failure there, whatever the other values are
  (`Schema.update_agreesOn_of_upstream`).

  The two runs are compared along the order of computation.  Fields that are not
  computed keep what they had, and a field that is computed has all its parents
  before it, so both of its computations read the same values.
-/
import FormEngine.Proofs.Derived.Uniqueness

namespace FormEngine

open Relation

/-! ### What a field reads -/

namespace Schema

/-- A derived field reads its parents, whether or not these are fields of the form. -/
def Reads (s : Schema) (x y : String) : Prop :=
  ∃ f ∈ s.fields, f.id = x ∧ ∃ d, f.derivation? = some d ∧ y ∈ d.parents

/-- What following parents from `x` leads to, `x` included. -/
def Upstream (s : Schema) (x y : String) : Prop := ReflTransGen s.Reads x y

variable {s : Schema} {f : Field} {d : Derivation} {p y : String}

theorem Upstream.of_parent (member : f ∈ s.fields) (derived : f.derivation? = some d)
    (parent : p ∈ d.parents) (h : s.Upstream p y) : s.Upstream f.id y :=
  ReflTransGen.head ⟨f, member, rfl, d, derived, parent⟩ h

end Schema

/-! ### Two runs -/

namespace DerivedUpdate

open Schema

variable {settings : Settings} {s : Schema} {values values' : Record Value} {now : Nat}
  {u u' : DerivedUpdate} {f : Field} {d : Derivation} {id x : String}
  {outcome : Except DerivedFault Value} {before after : List String}

theorem Shows.congr (h : u.Shows values id outcome) (same : values.get? id = values'.get? id) :
    u.Shows values' id outcome := by
  cases outcome with
  | ok v => exact h
  | error fault => exact ⟨h.1, h.2.trans same⟩

section

variable (solution : u.Recomputes settings s values now)
  (solution' : u'.Recomputes settings s values' now)
include solution solution'

/-- What is not computed comes out the same if it goes in the same. -/
theorem agreesOn_of_not_mem_order (notOrdered : x ∉ (s.resolution settings).order)
    (same : values.get? x = values'.get? x) : u.AgreesOn u' x := by
  have start : (passStart settings s values).AgreesOn (passStart settings s values') x := by
    rw [AgreesOn, values_passStart, values_passStart, errors_passStart, errors_passStart]
    exact ⟨same, rfl⟩
  have first := (passStart_agreesOn solution notOrdered).symm
  exact (first.trans start).trans (passStart_agreesOn solution' notOrdered)

/-- A computed field comes out the same if it goes in the same and its parents come out the
    same. -/
theorem agreesOn_of_parents (member : f ∈ s.fields) (derived : f.derivation? = some d)
    (notBlocked : f.id ∉ (s.resolution settings).blocked)
    (same : values.get? f.id = values'.get? f.id)
    (parents : ∀ p ∈ d.parents, u.values.get? p = u'.values.get? p) : u.AgreesOn u' f.id := by
  obtain ⟨outcome, computed, shown⟩ := solution.computed f member d derived notBlocked
  obtain ⟨outcome', computed', shown'⟩ := solution'.computed f member d derived notBlocked
  rw [Derivation.compute_congr parents, computed'] at computed
  cases computed
  exact (shown.congr same).agreesOn shown'

/-- Along the order of computation, what agrees upstream comes out the same. -/
theorem agreesOn_of_mem_before (split : (s.resolution settings).order = before ++ after)
    (member : x ∈ before) (agree : ∀ id, s.Upstream x id → values.get? id = values'.get? id) :
    u.AgreesOn u' x := by
  induction before using List.reverseRecOn generalizing after x with
  | nil => cases member
  | append_singleton before y ih =>
    rw [List.append_assoc, List.singleton_append] at split
    rcases List.mem_append.mp member with earlier | isLast
    · exact ih split earlier agree
    · rw [List.mem_singleton] at isLast
      subst isLast
      have ordered : x ∈ (s.resolution settings).order := by
        rw [split]
        exact List.mem_append_right before List.mem_cons_self
      obtain ⟨f, isField, d, rfl, derived, notBlocked⟩ := exists_derivation_of_mem_order ordered
      refine agreesOn_of_parents solution solution' isField derived notBlocked
        (agree f.id .refl) (fun p parent => ?_)
      have agreeAbove : ∀ id, s.Upstream p id → values.get? id = values'.get? id :=
        fun id above => agree id (above.of_parent isField derived parent)
      -- a parent is not computed at all, or before the field
      by_cases isOrdered : p ∈ (s.resolution settings).order
      · have notLater := not_mem_of_mem_parents split isField derived parent
        rw [split] at isOrdered
        have isBefore := (List.mem_append.mp isOrdered).resolve_right notLater
        exact (ih split isBefore agreeAbove).1
      · exact (agreesOn_of_not_mem_order solution solution' isOrdered (agreeAbove p .refl)).1

theorem agreesOn_of_upstream (agree : ∀ id, s.Upstream x id → values.get? id = values'.get? id) :
    u.AgreesOn u' x := by
  by_cases ordered : x ∈ (s.resolution settings).order
  · exact agreesOn_of_mem_before solution solution' (List.append_nil _).symm ordered agree
  · exact agreesOn_of_not_mem_order solution solution' ordered (agree x .refl)

end

end DerivedUpdate

/-! ### Recomputations -/

namespace Schema

variable {settings : Settings} {s : Schema} {values values' : Record Value} {now now' : Nat}
  {u u' : DerivedUpdate} {id x : String}

/-- **A derived field depends on what is upstream of it only.**  If two value maps agree on a
    field and on all that following parents from it leads to, then two updates that begin with
    them give it the same value, or none in both, and the same failure, or none in both; and if
    they take place at different times, the same but for the lists that are made. -/
theorem update_agreesOn_of_upstream (updated : s.update settings values now = .ok u)
    (updated' : s.update settings values' now' = .ok u')
    (agree : ∀ id, s.Upstream x id → values.get? id = values'.get? id) :
    (now = now' → u.AgreesOn u' x) ∧
      ((∀ id v, s.Upstream x id → values.get? id = some v → v.LacksTime now ∧ v.LacksTime now') →
        (u.retime now now').AgreesOn u' x) := by
  constructor
  · rintro rfl
    exact DerivedUpdate.agreesOn_of_upstream (recomputes_of_update updated)
      (recomputes_of_update updated') agree
  · intro lacks
    have exchanged : s.update settings (values.mapValues (Value.retime now now')) now' =
        .ok (u.retime now now') := by
      rw [update_mapValues_retime, updated]
      rfl
    refine DerivedUpdate.agreesOn_of_upstream (recomputes_of_update exchanged)
      (recomputes_of_update updated') (fun id above => ?_)
    -- upstream the exchange changes nothing
    rw [Record.get?_mapValues_retime (fun v => lacks id v above)]
    exact agree id above

/-- A form in which one field reads another that fails, apart from a field that is its own
    parent. -/
def relay : Schema where
  id := "relay"
  name := "Relay"
  fields := [
    { id := "price", type := .number, label := "Price" },
    totalField,
    { id := "view", type := .number, label := "View",
      derivation? := some { parents := ["total"], logic := "total + 1" } },
    loopField]
  ids_nodup := by decide

theorem mem_of_upstream_view (above : relay.Upstream "view" id) :
    id ∈ ["view", "total", "price", "rate"] := by
  induction above with
  | refl => decide
  | tail _ step inside =>
    obtain ⟨f, member, rfl, d, derived, parent⟩ := step
    simp only [relay, List.mem_cons, List.not_mem_nil, or_false] at member
    rcases member with rfl | rfl | rfl | rfl
    · cases derived
    · cases derived
      exact List.mem_cons_of_mem _ (List.mem_cons_of_mem _ parent)
    · cases derived
      rw [List.mem_singleton] at parent
      subst parent
      decide
    · exact absurd inside (by decide)

/-- The value that the failed field keeps is upstream; the field on the cycle is not. -/
theorem update_agreesOn_of_upstream_view :
    ∃ u u', relay.update isolating [("price", .int 40), ("total", .int 7), ("loop", .int 1)] =
        .ok u ∧
      relay.update isolating [("loop", .text "none"), ("total", .int 7), ("price", .int 40)] =
        .ok u' ∧
      u.values.get? "loop" = some (.int 1) ∧ u'.values.get? "loop" = some (.text "none") ∧
      u.AgreesOn u' "view" := by
  have short : isolating.maxExpressionLength ≤ digitLimit := by decide
  obtain ⟨u, updated⟩ := exists_update_eq_ok short relay
    [("price", .int 40), ("total", .int 7), ("loop", .int 1)] 0
  obtain ⟨u', updated'⟩ := exists_update_eq_ok short relay
    [("loop", .text "none"), ("total", .int 7), ("price", .int 40)] 0
  have isolated : (relay.resolution isolating).blocked = ["loop"] := by cbv
  have loops : loopField ∈ relay.derivedFields :=
    List.mem_filter.mpr ⟨by simp [relay], rfl⟩
  have isBlocked : loopField.id ∈ (relay.resolution isolating).blocked := by
    rw [isolated]
    decide
  have kept := ((recomputes_of_update updated).blocked loopField loops isBlocked).2
  have kept' := ((recomputes_of_update updated').blocked loopField loops isBlocked).2
  refine ⟨u, u', updated, updated', kept, kept', ?_⟩
  refine (update_agreesOn_of_upstream updated updated' (fun id above => ?_)).1 rfl
  have known := mem_of_upstream_view above
  simp only [List.mem_cons, List.not_mem_nil, or_false] at known
  rcases known with rfl | rfl | rfl | rfl <;> rfl

end Schema

end FormEngine
