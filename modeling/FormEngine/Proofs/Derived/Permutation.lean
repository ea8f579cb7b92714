/-
  FormEngine/Proofs/Derived/Permutation.lean
  ==========================================
  **The order of the fields does not matter** to a recomputation.

  Moving fields about changes where the walk over the dependencies begins, which
  closed paths it reports and in which order fields are computed.  It changes
  neither the dependencies nor what is blocked (`mem_blocked_resolve_perm`), so the
  two forms have the same equations (`DerivedUpdate.Recomputes.perm`), and these
  determine the result.
-/
import FormEngine.Proofs.Derived.Uniqueness

namespace FormEngine

open DependencyGraph

/-! ### Dependencies -/

section Fields

variable {fields fields' : List (String × List String)} {x : String}

section

variable (perm : fields'.Perm fields)
include perm

theorem dependsOn_perm : DependsOn fields' = DependsOn fields := by
  have members : ∀ y, y ∈ fields'.map Prod.fst ↔ y ∈ fields.map Prod.fst :=
    fun y => (perm.map Prod.fst).mem_iff
  funext x y
  simp only [DependsOn, perm.mem_iff, members]

theorem onCycle_perm : OnCycle fields' x ↔ OnCycle fields x := by
  rw [OnCycle, OnCycle, dependsOn_perm perm]

theorem reachesCycle_perm : ReachesCycle fields' x ↔ ReachesCycle fields x := by
  simp only [ReachesCycle, onCycle_perm perm, dependsOn_perm perm]

end

/-- Under either policy, the same fields are blocked. -/
theorem mem_blocked_resolve_perm (distinct : (fields.map Prod.fst).Nodup)
    (perm : fields'.Perm fields) (policy : CyclePolicy) :
    x ∈ ((ofFields fields').resolve policy).blocked ↔
      x ∈ ((ofFields fields).resolve policy).blocked := by
  have ids : (fields'.map Prod.fst).Perm (fields.map Prod.fst) := perm.map Prod.fst
  have distinct' : (fields'.map Prod.fst).Nodup := ids.nodup_iff.mpr distinct
  have names := nodup_names_ofFields distinct
  have names' := nodup_names_ofFields distinct'
  cases policy with
  | invalidateAll =>
    rw [mem_blocked_invalidateAll names, mem_blocked_invalidateAll names',
      names_ofFields distinct, names_ofFields distinct', ids.mem_iff]
    simp only [onCycle_ofFields distinct, onCycle_ofFields distinct', onCycle_perm perm]
  | isolate =>
    rw [mem_blocked_isolate names, mem_blocked_isolate names',
      reachesCycle_ofFields distinct, reachesCycle_ofFields distinct', reachesCycle_perm perm]

end Fields

/-! ### Schemas -/

namespace Schema

section

variable {settings : Settings} {s t : Schema} {values : Record Value} {now : Nat}
  {u : DerivedUpdate}  (perm : t.fields.Perm s.fields)
include perm

theorem field?_perm (id : String) : t.field? id = s.field? id := by
  cases found : s.field? id with
  | some f =>
    have member : f ∈ t.fields := perm.mem_iff.mpr (List.mem_of_find?_eq_some found)
    rw [← id_of_field? found]
    exact field?_of_mem member
  | none =>
    rw [field?, List.find?_eq_none] at found ⊢
    intro f member
    exact found f (perm.mem_iff.mp member)

theorem parentAliases_perm (d : Derivation) : t.parentAliases d = s.parentAliases d := by
  simp only [parentAliases, field?_perm perm]

theorem mem_derivedFields_perm {f : Field} : f ∈ t.derivedFields ↔ f ∈ s.derivedFields :=
  (perm.filter Field.isDerived).mem_iff

theorem mem_blocked_perm {id : String} :
    id ∈ (t.resolution settings).blocked ↔ id ∈ (s.resolution settings).blocked :=
  mem_blocked_resolve_perm s.nodup_ids_parentLists (perm.filterMap _) settings.cyclePolicy

theorem recomputes_perm (h : u.Recomputes settings s values now) :
    u.Recomputes settings t values now := by
  refine ⟨?_, ?_, ?_⟩
  · intro id plain
    refine h.plain id (fun f member => ?_)
    exact plain f ((mem_derivedFields_perm perm).mpr member)
  · intro f member isBlocked
    rw [mem_derivedFields_perm perm] at member
    rw [mem_blocked_perm perm] at isBlocked
    exact h.blocked f member isBlocked
  · intro f member d derived notBlocked
    rw [perm.mem_iff] at member
    rw [mem_blocked_perm perm] at notBlocked
    rw [parentAliases_perm perm]
    exact h.computed f member d derived notBlocked

/-- **The order of the fields does not matter.**  Where an update of a form returns, the update of
    a form with the same fields in another order returns too, with the same value and the same
    failure under every id; at another time, with the same but for the lists that are made. -/
theorem update_perm (h : s.update settings values now = .ok u) :
    ∃ w, t.update settings values now = .ok w ∧ (∀ id, w.AgreesOn u id) ∧
      ∀ now', values.LacksTime now → values.LacksTime now' →
        t.update settings values now' = .ok (w.retime now now') := by
  have solution : u.Recomputes settings s values now := recomputes_of_update h
  obtain ⟨w, updated, agree⟩ := exists_update_of_recomputes (recomputes_perm perm solution)
  refine ⟨w, updated, agree, fun now' lacks lacks' => ?_⟩
  rw [update_retime lacks lacks', updated]
  rfl

end

/-- The ledger with its fields in the opposite order. -/
def backwardLedger : Schema :=
  { ledger with fields := ledger.fields.reverse, ids_nodup := by decide }

theorem update_perm_ledger :
    (ledger.resolution isolating).order = ["tax", "total"] ∧
      (backwardLedger.resolution isolating).order = ["total", "tax"] ∧
      ∃ u w, ledger.update isolating [("price", .int 40), ("total", .int 7)] = .ok u ∧
        backwardLedger.update isolating [("price", .int 40), ("total", .int 7)] = .ok w ∧
        (∀ id, w.AgreesOn u id) ∧
        w.errors.get? "total" = some ⟨"total", .missingParents ["rate"]⟩ := by
  have short : isolating.maxExpressionLength ≤ digitLimit := by decide
  have perm : backwardLedger.fields.Perm ledger.fields := List.reverse_perm ledger.fields
  obtain ⟨u, updated⟩ := exists_update_eq_ok short ledger [("price", .int 40), ("total", .int 7)] 0
  obtain ⟨w, updated', agree, _⟩ := update_perm perm updated
  obtain ⟨failed, _⟩ := total_of_recomputes_ledger (recomputes_of_update updated) rfl rfl
  exact ⟨by cbv, by cbv, u, w, updated, updated', agree, (agree "total").2.trans failed⟩

end Schema

end FormEngine
