/-
  FormEngine/Proofs/Derived/Retiming.lean
  =======================================
  **When a recomputation takes place does not matter**, except for which lists it makes.

  If the objects in a form are replaced, different ones by different ones, and lists made
  at the one time by lists made at the other, a recomputation comes to the same result, up
  to the same replacement (`Schema.update_relabel`).  A form that holds no list of
  either time is left alone by exchanging them.  So recomputing it at the one time and at
  the other differs in the lists that the two recomputations make, and in nothing else
  (`Schema.update_retime`).
-/
import FormEngine.Proofs.Derived.Recomputation
import FormEngine.Proofs.Expression.Relabelling

namespace FormEngine

variable {ρ : Identity → Identity}

/-! ### One computation -/

namespace Derivation

variable {d : Derivation} {values : Record Value}

theorem missingParents_mapValues (f : Value → Value) :
    d.missingParents (values.mapValues f) = d.missingParents values :=
  List.filter_congr (fun p _ => by rw [Record.has_mapValues])

theorem parentBindings_mapValues (f : Value → Value) :
    d.parentBindings (values.mapValues f) = (d.parentBindings values).mapValues f := by
  rw [parentBindings, parentBindings, Record.ofEntries, Record.ofEntries, Record.mapValues_overlay]
  refine congrArg (Record.overlay []) ?_
  refine Eq.trans (List.filterMap_congr (fun p _ => ?_)) List.map_filterMap.symm
  rw [Record.get?_mapValues, Option.map_map, Option.map_map]
  rfl

theorem bindAlias_mapValues (f : Value → Value) (b : Bindings) (named : String × String) :
    bindAlias (b.mapValues f) named = (bindAlias b named).mapValues f := by
  rw [bindAlias, bindAlias, Record.get?_mapValues, Record.has_mapValues]
  cases b.get? named.1 with
  | none => rfl
  | some v =>
    simp only [Option.map_some]
    split
    · rw [Record.mapValues_set]
    · rfl

theorem bindings_mapValues (f : Value → Value) (aliases : Record String) :
    d.bindings (values.mapValues f) aliases = (d.bindings values aliases).mapValues f := by
  rw [bindings, bindings, parentBindings_mapValues]
  generalize d.parentBindings values = b
  induction aliases generalizing b with
  | nil => rfl
  | cons named aliases ih => rw [List.foldl_cons, List.foldl_cons, bindAlias_mapValues, ih]

/-- A computation does not look into identities. -/
theorem compute_relabel {occasion occasion' : Occasion}
    (carries : Identity.Carries ρ occasion occasion') (settings : Settings)
    (aliases : Record String) :
    d.compute settings aliases (values.mapValues (Value.relabel ρ)) occasion' =
      (d.compute settings aliases values occasion).map (Except.map (Value.relabel ρ)) := by
  rw [compute, compute, missingParents_mapValues, bindings_mapValues,
    evaluateExpression_relabel carries]
  cases d.missingParents values with
  | cons p missing => rfl
  | nil =>
    dsimp only
    split
    · rfl
    · rcases evaluateExpression settings (.text d.logic) (d.bindings values aliases) occasion with
        (e | e) | v <;> rfl

end Derivation

/-! ### Updates -/

namespace DerivedUpdate

/-- The update with each identity replaced. -/
def relabel (ρ : Identity → Identity) (u : DerivedUpdate) : DerivedUpdate :=
  { u with values := u.values.mapValues (Value.relabel ρ) }

/-- The update with two times exchanged. -/
def retime (time time' : Nat) (u : DerivedUpdate) : DerivedUpdate :=
  { u with values := u.values.mapValues (Value.retime time time') }

theorem settle_relabel (u : DerivedUpdate) (id : String) (outcome : Except DerivedFault Value) :
    (u.relabel ρ).settle id (outcome.map (Value.relabel ρ)) = (u.settle id outcome).relabel ρ := by
  cases outcome with
  | ok v =>
    have values := Record.mapValues_set (Value.relabel ρ) u.values id v
    simp only [Except.map, settle, store, relabel, values]
  | error fault => rfl

theorem relabel_reportAll (blocked : List String) (u : DerivedUpdate) :
    (u.relabel ρ).reportAll blocked = (u.reportAll blocked).relabel ρ := by
  induction blocked generalizing u with
  | nil => rfl
  | cons x blocked ih => exact ih (u.report x .circular)

end DerivedUpdate

namespace Schema

variable {settings : Settings} {s : Schema} {values : Record Value} {now now' : Nat}

section Relabelled

variable (carries : ∀ field, Identity.Carries ρ ⟨now, field⟩ ⟨now', field⟩)
include carries

theorem recompute_relabel (w : DerivedUpdate) (x : String) :
    s.recompute settings now' (w.relabel ρ) x =
      (s.recompute settings now w x).map (DerivedUpdate.relabel ρ) := by
  rw [recompute, recompute]
  cases (s.field? x).bind Field.derivation? with
  | none => rfl
  | some d =>
    dsimp only [DerivedUpdate.relabel]
    rw [Derivation.compute_relabel (carries x)]
    simp only [Except.map_bind, Except.bind_map]
    refine bind_congr (fun outcome => ?_)
    exact congrArg Except.ok (w.settle_relabel x outcome)

/-- **A recomputation does not look into identities.** -/
theorem update_relabel :
    s.update settings (values.mapValues (Value.relabel ρ)) now' =
      (s.update settings values now).map (DerivedUpdate.relabel ρ) := by
  have start : passStart settings s (values.mapValues (Value.relabel ρ)) =
      (passStart settings s values).relabel ρ :=
    DerivedUpdate.relabel_reportAll _ { values }
  rw [update_eq_foldlM, update_eq_foldlM, start]
  generalize passStart settings s values = w
  induction (s.resolution settings).order generalizing w with
  | nil => rfl
  | cons x order ih =>
    rw [List.foldlM_cons, List.foldlM_cons, recompute_relabel carries, Except.map_bind,
      Except.bind_map]
    exact bind_congr (fun v => ih v)

end Relabelled

/-- A recomputation of what was there before, with the lists of the one time replaced by lists of
    the other. -/
theorem update_mapValues_retime :
    s.update settings (values.mapValues (Value.retime now now')) now' =
      (s.update settings values now).map (DerivedUpdate.retime now now') :=
  update_relabel (Identity.carries_retime now now')

/-- **When a form is recomputed does not matter**: at another time the same fields fail, and every
    field has the same value but for the lists that the recomputation makes. -/
theorem update_retime (lacks : values.LacksTime now) (lacks' : values.LacksTime now') :
    s.update settings values now' =
      (s.update settings values now).map (DerivedUpdate.retime now now') := by
  rw [← update_mapValues_retime, Record.mapValues_retime_eq_self lacks lacks']

end Schema

end FormEngine
