/-
  FormEngine/Proofs/Derived/Bindings.lean
  =======================================
  **The variables that the expression of a derived field sees.**

  The parents are bound under their ids first; then the aliases are gone through in
  order, and each is bound to what its key is bound to by then, unless it is taken
  or no usable name (`get?_bindings_concat` is one such step).  What is bound once
  stays, so a bound alias has exactly one entry that binds it (`BindsAt`).

  A key need not be a parent: one that is itself an alias bound before will do.  Such
  an entry is a *stray*, and it decides the matter: the variables are the parents under
  their ids and their aliases (`BindsParents`) exactly if there is no stray.
-/
import FormEngine.Derived.Computation
import Mathlib.Data.List.Basic
import Mathlib.Data.List.Induction

namespace FormEngine

/-- What is found after writing what some names have, each under its name. -/
theorem Record.get?_overlay_filterMap {α : Type} (source : String → Option α) (ps : List String)
    (r : Record α) (name : String) :
    (r.overlay (ps.filterMap (fun p => (source p).map (fun a => (p, a))))).get? name =
      (if name ∈ ps then source name else none).or (r.get? name) := by
  induction ps generalizing r with
  | nil => simp [overlay]
  | cons p ps ih =>
    cases found : source p with
    | none =>
      rw [List.filterMap_cons_none (by rw [found]; rfl), ih]
      by_cases same : name = p
      · rw [same, found]
        simp
      · simp [same]
    | some a =>
      rw [List.filterMap_cons_some (by rw [found]; rfl)]
      change (overlay (r.set p a) _).get? name = _
      rw [ih, get?_set]
      by_cases same : name = p
      · subst same
        rw [if_pos List.mem_cons_self, if_pos rfl, found]
        split <;> rfl
      · simp [same]

namespace Derivation

variable {d : Derivation} {values : Record Value} {aliases before after : Record String}
  {key name p : String} {v : Value}

/-! ### One alias -/

theorem get?_parentBindings (d : Derivation) (values : Record Value) (name : String) :
    (d.parentBindings values).get? name = if name ∈ d.parents then values.get? name else none := by
  rw [parentBindings, Record.ofEntries, Record.get?_overlay_filterMap, Record.get?_nil,
    Option.or_none]

/-- An alias binds itself at most, to what its key is bound to. -/
theorem get?_bindAlias (bindings : Bindings) (key alias_ name : String) :
    (bindAlias bindings (key, alias_)).get? name =
      (bindings.get? name).or
        (if name = alias_ ∧ Screening.isBindable name = true then bindings.get? key else none) := by
  rw [bindAlias]
  cases found : bindings.get? key with
  | none => simp
  | some v =>
    dsimp only
    split
    · next free =>
      rw [Bool.and_eq_true, Bool.not_eq_true', Record.has, Option.isSome_eq_false_iff,
        Option.isNone_iff_eq_none] at free
      rw [Record.get?_set]
      by_cases same : name = alias_
      · rw [same, free.1]
        simp [free.2]
      · simp [same]
    · next taken =>
      by_cases same : name = alias_
      · cases bound : bindings.get? name with
        | some w => simp
        | none =>
          rw [same] at bound
          simp only [Record.has, bound, Option.isSome_none, Bool.not_false, Bool.true_and] at taken
          simp [same, taken]
      · simp [same]

/-! ### A run over the aliases -/

theorem get?_bindings_nil (d : Derivation) (values : Record Value) (name : String) :
    (d.bindings values []).get? name = if name ∈ d.parents then values.get? name else none :=
  get?_parentBindings d values name

theorem get?_bindings_concat (d : Derivation) (values : Record Value) (aliases : Record String)
    (key alias_ name : String) :
    (d.bindings values (aliases ++ [(key, alias_)])).get? name =
      ((d.bindings values aliases).get? name).or
        (if name = alias_ ∧ Screening.isBindable name = true
          then (d.bindings values aliases).get? key else none) := by
  have step : d.bindings values (aliases ++ [(key, alias_)]) =
      bindAlias (d.bindings values aliases) (key, alias_) := by
    rw [bindings, List.foldl_append]
    rfl
  rw [step, get?_bindAlias]

/-- What is bound stays bound. -/
theorem get?_bindings_append (bound : (d.bindings values before).get? name = some v)
    (after : Record String) : (d.bindings values (before ++ after)).get? name = some v := by
  induction after using List.reverseRecOn with
  | nil => rwa [List.append_nil]
  | append_singleton after e ih =>
    rw [← List.append_assoc, get?_bindings_concat, ih, Option.some_or]

/-- A parent is bound under its id, whatever the aliases are. -/
theorem get?_bindings_of_mem_parents (parent : p ∈ d.parents) (held : values.has p = true)
    (aliases : Record String) : (d.bindings values aliases).get? p = values.get? p := by
  obtain ⟨v, found⟩ := Option.isSome_iff_exists.mp held
  have bound : (d.bindings values []).get? p = some v := by
    rw [get?_bindings_nil, if_pos parent, found]
  rw [found]
  exact get?_bindings_append bound aliases

/-- The entry of an alias binds it, the aliases before being gone through: its key is bound, the
    alias is not, and it is a usable name. -/
structure BindsAt (d : Derivation) (values : Record Value) (before : Record String)
    (key name : String) (v : Value) : Prop where
  bound : (d.bindings values before).get? key = some v
  free : (d.bindings values before).get? name = none
  usable : Screening.isBindable name = true

namespace BindsAt

theorem get?_alias (h : d.BindsAt values before key name v) (after : Record String) :
    (d.bindings values (before ++ (key, name) :: after)).get? name = some v := by
  rw [← List.singleton_append, ← List.append_assoc]
  refine get?_bindings_append ?_ after
  rw [get?_bindings_concat, h.free, Option.none_or, if_pos ⟨rfl, h.usable⟩, h.bound]

theorem get?_key (h : d.BindsAt values before key name v) (after : Record String) :
    (d.bindings values (before ++ (key, name) :: after)).get? key = some v :=
  get?_bindings_append h.bound _

end BindsAt

/-- A variable that is no parent was bound by an entry of the aliases. -/
theorem exists_bindsAt (noParent : name ∉ d.parents)
    (bound : (d.bindings values aliases).get? name = some v) :
    ∃ before key after, aliases = before ++ (key, name) :: after ∧
      d.BindsAt values before key name v := by
  induction aliases using List.reverseRecOn with
  | nil =>
    rw [get?_bindings_nil, if_neg noParent] at bound
    cases bound
  | append_singleton aliases e ih =>
    obtain ⟨key, alias_⟩ := e
    rw [get?_bindings_concat] at bound
    cases earlier : (d.bindings values aliases).get? name with
    | some w =>
      rw [earlier, Option.some_or] at bound
      rw [bound] at earlier
      obtain ⟨before, key', after, split, binds⟩ := ih earlier
      exact ⟨before, key', after ++ [(key, alias_)], by simp [split], binds⟩
    | none =>
      rw [earlier, Option.none_or] at bound
      split at bound
      · next here =>
        obtain ⟨rfl, usable⟩ := here
        exact ⟨aliases, key, [], rfl, bound, earlier, usable⟩
      · cases bound

/-! ### Aliases of parents -/

/-- The name is an alias of a parent and can be used as one: it is no parent's id itself, and a
    plain word that is allowed. -/
def IsAlias (d : Derivation) (aliases : Record String) (name : String) : Prop :=
  name ∉ d.parents ∧ Screening.isBindable name = true ∧ ∃ p ∈ d.parents, (p, name) ∈ aliases

/-- The first parent that has the alias. -/
def parentWith? (d : Derivation) (aliases : Record String) (name : String) : Option String :=
  (aliases.find? (fun e => decide (e.1 ∈ d.parents ∧ e.2 = name))).map Prod.fst

theorem parentWith?_eq_some_iff : d.parentWith? aliases name = some p ↔
    p ∈ d.parents ∧ ∃ before after, aliases = before ++ (p, name) :: after ∧
      ∀ e ∈ before, e.1 ∈ d.parents → e.2 ≠ name := by
  rw [parentWith?, Option.map_eq_some_iff]
  constructor
  · rintro ⟨⟨q, alias_⟩, found, rfl⟩
    obtain ⟨holds, before, after, split, first⟩ := List.find?_eq_some_iff_append.mp found
    obtain ⟨parent, rfl⟩ := of_decide_eq_true holds
    refine ⟨parent, before, after, split, ?_⟩
    intro e member isParent same
    have differs := first e member
    simp [isParent, same] at differs
  · rintro ⟨parent, before, after, split, first⟩
    refine ⟨(p, name), List.find?_eq_some_iff_append.mpr ⟨?_, before, after, split, ?_⟩, rfl⟩
    · simp [parent]
    · intro e member
      have differs := first e member
      simpa [imp_iff_not_or] using differs

theorem parentWith?_eq_none_iff :
    d.parentWith? aliases name = none ↔ ∀ p ∈ d.parents, (p, name) ∉ aliases := by
  rw [parentWith?, Option.map_eq_none_iff, List.find?_eq_none]
  constructor
  · intro none p parent member
    exact none _ member (by simp [parent])
  · rintro none ⟨p, alias_⟩ member holds
    obtain ⟨parent, rfl⟩ := of_decide_eq_true holds
    exact none p parent member

theorem exists_parentWith? (h : ∃ p ∈ d.parents, (p, name) ∈ aliases) :
    ∃ p, d.parentWith? aliases name = some p := by
  apply Option.ne_none_iff_exists'.mp
  rw [Ne, parentWith?_eq_none_iff]
  intro none
  obtain ⟨p, parent, member⟩ := h
  exact none p parent member

theorem parentWith?_concat (d : Derivation) (aliases : Record String) (key alias_ name : String) :
    d.parentWith? (aliases ++ [(key, alias_)]) name =
      (d.parentWith? aliases name).or
        (if key ∈ d.parents ∧ alias_ = name then some key else none) := by
  rw [parentWith?, List.find?_append, Option.map_or]
  congr 1
  by_cases h : key ∈ d.parents ∧ alias_ = name <;> simp [h]

/-- What the variables are meant to be: the parents under their ids, and each alias for the first
    parent that has it. -/
def intended? (d : Derivation) (values : Record Value) (aliases : Record String) (name : String) :
    Option Value :=
  if name ∈ d.parents then values.get? name
  else if Screening.isBindable name then (d.parentWith? aliases name).bind values.get?
  else none

theorem intended?_of_mem_parents (parent : name ∈ d.parents) :
    d.intended? values aliases name = values.get? name := by
  rw [intended?, if_pos parent]

theorem intended?_of_not_mem_parents (noParent : name ∉ d.parents) :
    d.intended? values aliases name =
      if Screening.isBindable name then (d.parentWith? aliases name).bind values.get? else none := by
  rw [intended?, if_neg noParent]

theorem intended?_of_not_isAlias (noAlias : ¬d.IsAlias aliases name) :
    d.intended? values aliases name = if name ∈ d.parents then values.get? name else none := by
  by_cases parent : name ∈ d.parents
  · rw [intended?_of_mem_parents parent, if_pos parent]
  rw [intended?_of_not_mem_parents parent, if_neg parent]
  by_cases usable : Screening.isBindable name = true
  · have unknown : d.parentWith? aliases name = none := by
      rw [parentWith?_eq_none_iff]
      intro p isParent member
      exact noAlias ⟨parent, usable, p, isParent, member⟩
    rw [if_pos usable, unknown, Option.bind_none]
  · rw [if_neg usable]

/-! ### Strays -/

/-- Some alias is given for a key that is no parent, but a parent's alias itself, given before,
    and no parent before it has that alias. -/
def HasStray (d : Derivation) (aliases : Record String) : Prop :=
  ∃ before key name after, aliases = before ++ (key, name) :: after ∧ d.IsAlias before key ∧
    name ∉ d.parents ∧ Screening.isBindable name = true ∧ ¬d.IsAlias before name

theorem HasStray.append (h : d.HasStray before) (after : Record String) :
    d.HasStray (before ++ after) := by
  obtain ⟨front, key, name, back, rfl, stray⟩ := h
  exact ⟨front, key, name, back ++ after, by simp, stray⟩

/-- The first stray has no other before it. -/
theorem HasStray.exists_first (h : d.HasStray aliases) :
    ∃ before key name after, aliases = before ++ (key, name) :: after ∧ ¬d.HasStray before ∧
      d.IsAlias before key ∧ name ∉ d.parents ∧ Screening.isBindable name = true ∧
      ¬d.IsAlias before name := by
  induction aliases using List.reverseRecOn with
  | nil =>
    obtain ⟨before, key, name, after, split, _⟩ := h
    simp at split
  | append_singleton aliases e ih =>
    by_cases earlier : d.HasStray aliases
    · obtain ⟨before, key, name, after, split, first⟩ := ih earlier
      exact ⟨before, key, name, after ++ [e], by simp [split], first⟩
    · obtain ⟨before, key, name, after, split, stray⟩ := h
      rcases List.eq_nil_or_concat after with rfl | ⟨after, e', rfl⟩
      · obtain ⟨rfl, same⟩ := List.append_inj' split rfl
        exact ⟨aliases, key, name, [], by rw [same], earlier, stray⟩
      · rw [List.concat_eq_append, ← List.cons_append, ← List.append_assoc] at split
        obtain ⟨rfl, _⟩ := List.append_inj' split rfl
        exact absurd ⟨before, key, name, after, rfl, stray⟩ earlier

section Held

variable (held : ∀ p ∈ d.parents, values.has p = true)
include held

theorem exists_get?_of_parentWith? (found : d.parentWith? aliases name = some p) :
    ∃ v, values.get? p = some v :=
  Option.isSome_iff_exists.mp (held p (parentWith?_eq_some_iff.mp found).1)

/-- Without strays, the variables are what they are meant to be. -/
theorem get?_bindings_of_not_hasStray (noStray : ¬d.HasStray aliases) (name : String) :
    (d.bindings values aliases).get? name = d.intended? values aliases name := by
  induction aliases using List.reverseRecOn generalizing name with
  | nil => simp [get?_bindings_nil, intended?, parentWith?]
  | append_singleton aliases e ih =>
    obtain ⟨key, alias_⟩ := e
    have before : ¬d.HasStray aliases := fun stray => noStray (stray.append _)
    by_cases parent : name ∈ d.parents
    · rw [get?_bindings_of_mem_parents parent (held name parent), intended?_of_mem_parents parent]
    rw [get?_bindings_concat, ih before name, ih before key, intended?_of_not_mem_parents parent,
      intended?_of_not_mem_parents parent, parentWith?_concat]
    by_cases usable : Screening.isBindable name = true
    · rw [if_pos usable, if_pos usable]
      cases found : d.parentWith? aliases name with
      | some p =>
        obtain ⟨v, value⟩ := exists_get?_of_parentWith? held found
        simp [value]
      | none =>
        -- the alias is new, so its key is a parent or nothing at all
        have fresh : ¬d.IsAlias aliases name :=
          fun ⟨_, _, p, isParent, member⟩ => parentWith?_eq_none_iff.mp found p isParent member
        by_cases here : name = alias_
        · subst here
          have plain : ¬d.IsAlias aliases key :=
            fun known => noStray ⟨aliases, key, name, [], rfl, known, parent, usable, fresh⟩
          rw [intended?_of_not_isAlias plain]
          by_cases isParent : key ∈ d.parents <;> simp [usable, isParent]
        · simp [here, Ne.symm here]
    · simp [usable]

/-- Behind a stray, its alias stands for the parent whose alias its key is. -/
theorem get?_bindings_of_stray (noStray : ¬d.HasStray before) (known : d.IsAlias before key)
    (noParent : name ∉ d.parents) (usable : Screening.isBindable name = true)
    (fresh : ¬d.IsAlias before name) (after : Record String) :
    ∃ p ∈ d.parents, (p, key) ∈ before ∧
      (d.bindings values (before ++ (key, name) :: after)).get? name = values.get? p := by
  obtain ⟨keyNoParent, keyUsable, some_⟩ := known
  obtain ⟨p, first⟩ := exists_parentWith? some_
  obtain ⟨v, value⟩ := exists_get?_of_parentWith? held first
  obtain ⟨parent, front, back, split, _⟩ := parentWith?_eq_some_iff.mp first
  have binds : d.BindsAt values before key name v := by
    refine ⟨?_, ?_, usable⟩
    · rw [get?_bindings_of_not_hasStray held noStray, intended?_of_not_mem_parents keyNoParent,
        if_pos keyUsable, first, Option.bind_some, value]
    · rw [get?_bindings_of_not_hasStray held noStray, intended?_of_not_isAlias fresh,
        if_neg noParent]
  refine ⟨p, parent, by simp [split], ?_⟩
  rw [binds.get?_alias, value]

end Held

/-! ### Which variables there are -/

/-- The variables are the parents under their ids, and under their aliases: a name is bound exactly
    if it is the id of a parent or an alias of one, each id to its own value, and each alias to the
    value of the first parent that has it. -/
structure BindsParents (d : Derivation) (values : Record Value) (aliases : Record String) :
    Prop where
  names : ∀ name, (d.bindings values aliases).has name = true ↔
    name ∈ d.parents ∨ d.IsAlias aliases name
  own : ∀ p ∈ d.parents, (d.bindings values aliases).get? p = values.get? p
  first : ∀ before p name after, aliases = before ++ (p, name) :: after → p ∈ d.parents →
    d.IsAlias aliases name → (∀ e ∈ before, e.1 ∈ d.parents → e.2 ≠ name) →
      (d.bindings values aliases).get? name = values.get? p

theorem bindsParents_of_not_hasStray (held : ∀ p ∈ d.parents, values.has p = true)
    (noStray : ¬d.HasStray aliases) : d.BindsParents values aliases where
  names name := by
    rw [Record.has, get?_bindings_of_not_hasStray held noStray]
    by_cases known : d.IsAlias aliases name
    · obtain ⟨noParent, usable, some_⟩ := known
      obtain ⟨p, first⟩ := exists_parentWith? some_
      obtain ⟨v, value⟩ := exists_get?_of_parentWith? held first
      rw [intended?_of_not_mem_parents noParent, if_pos usable, first, Option.bind_some, value]
      exact iff_of_true rfl (Or.inr ⟨noParent, usable, some_⟩)
    · rw [intended?_of_not_isAlias known]
      by_cases parent : name ∈ d.parents
      · rw [if_pos parent]
        exact iff_of_true (held name parent) (Or.inl parent)
      · simp [parent, known]
  own p parent := get?_bindings_of_mem_parents parent (held p parent) aliases
  first before p name after split parent known first := by
    obtain ⟨noParent, usable, _⟩ := known
    have foremost : d.parentWith? aliases name = some p :=
      parentWith?_eq_some_iff.mpr ⟨parent, before, after, split, first⟩
    rw [get?_bindings_of_not_hasStray held noStray, intended?_of_not_mem_parents noParent,
      if_pos usable, foremost, Option.bind_some]

/-- No alias strays if all are given for parents. -/
theorem not_hasStray_of_keys (keys : ∀ e ∈ aliases, e.1 ∈ d.parents) : ¬d.HasStray aliases := by
  rintro ⟨before, key, name, after, split, ⟨noParent, _⟩, _⟩
  refine noParent (keys (key, name) ?_)
  simp [split]

/-- Values that tell the parents apart: each has its own id. -/
def ownIds (d : Derivation) : Record Value := d.parents.map (fun p => (p, .text p))

theorem get?_ownIds (parent : p ∈ d.parents) : d.ownIds.get? p = some (.text p) := by
  rw [ownIds]
  generalize d.parents = ps at parent
  induction ps with
  | nil => cases parent
  | cons q ps ih =>
    rw [List.map_cons, Record.get?_cons]
    by_cases same : q = p
    · rw [if_pos same, same]
    · rw [if_neg same]
      exact ih (List.mem_of_ne_of_mem (Ne.symm same) parent)

theorem not_hasStray_of_bindsParents (distinct : aliases.names.Nodup)
    (h : d.BindsParents d.ownIds aliases) : ¬d.HasStray aliases := by
  intro stray
  obtain ⟨before, key, name, after, split, noStray, known, noParent, usable, fresh⟩ :=
    stray.exists_first
  have held : ∀ p ∈ d.parents, d.ownIds.has p = true := by
    intro p parent
    rw [Record.has, get?_ownIds parent]
    rfl
  obtain ⟨p, parent, member, bound⟩ :=
    get?_bindings_of_stray held noStray known noParent usable fresh after
  rw [← split, get?_ownIds parent] at bound
  -- the alias is bound, so it has to be one of a parent, which has to be the same one
  have isBound : (d.bindings d.ownIds aliases).has name = true := by
    rw [Record.has, bound]
    rfl
  have alias_ : d.IsAlias aliases name := ((h.names name).mp isBound).resolve_left noParent
  obtain ⟨q, first⟩ := exists_parentWith? alias_.2.2
  obtain ⟨isParent, front, back, split', foremost⟩ := parentWith?_eq_some_iff.mp first
  have value := h.first front q name back split' isParent alias_ foremost
  rw [bound, get?_ownIds isParent, Option.some.injEq, Value.text.injEq] at value
  subst value
  -- a parent has one alias, so the key and its alias are the same name
  have ofKey : aliases.get? p = some key :=
    (Record.get?_eq_some_iff distinct).mpr (by simp [split, member])
  have ofName : aliases.get? p = some name :=
    (Record.get?_eq_some_iff distinct).mpr (by simp [split'])
  rw [ofKey, Option.some.injEq] at ofName
  rw [ofName] at known
  exact fresh known

/-- **The variables are the parents under their ids and their aliases**, whatever the values of
    the parents are, exactly if no alias is given for a key that is itself an alias and no
    parent. -/
theorem bindsParents_iff_not_hasStray (d : Derivation) (aliases : Record String)
    (distinct : aliases.names.Nodup) :
    (∀ values, (∀ p ∈ d.parents, values.has p = true) → d.BindsParents values aliases) ↔
      ¬d.HasStray aliases := by
  constructor
  · intro always
    apply not_hasStray_of_bindsParents distinct
    apply always
    intro p parent
    rw [Record.has, get?_ownIds parent]
    rfl
  · intro noStray values held
    exact bindsParents_of_not_hasStray held noStray

/-- The parent that is listed later comes first among the aliases, so their name stands for it. -/
theorem bindsParents_iff_not_hasStray_shared :
    ∃ (d : Derivation) (values : Record Value) (aliases : Record String), aliases.names.Nodup ∧
      ¬d.HasStray aliases ∧ (∀ p ∈ d.parents, values.has p = true) ∧
      (d.bindings values aliases).get? "amount" = some (.int 7) := by
  have distinct : (Record.names [("gross", "amount"), ("net", "amount")]).Nodup := by decide
  have noStray : ¬HasStray ⟨["net", "gross"], "amount"⟩ [("gross", "amount"), ("net", "amount")] :=
    not_hasStray_of_keys (by decide)
  have held : ∀ p ∈ ["net", "gross"],
      Record.has [("net", Value.int 5), ("gross", .int 7)] p = true := by decide
  have binds := (bindsParents_iff_not_hasStray _ _ distinct).mpr noStray _ held
  refine ⟨_, _, _, distinct, noStray, held, ?_⟩
  have known : IsAlias ⟨["net", "gross"], "amount"⟩ [("gross", "amount"), ("net", "amount")]
      "amount" := ⟨by decide, by decide +kernel, "gross", by decide, by decide⟩
  exact binds.first [] "gross" "amount" _ rfl (by decide) known (List.forall_mem_nil _)

/-- A name that is no alias of a parent is bound, because its key is one. -/
theorem bindings_strayed :
    (bindings ⟨["a"], "a"⟩ [("a", .int 1)] [("a", "x"), ("x", "y")]).has "y" = true ∧
      "y" ∉ ["a"] ∧ ¬∃ p ∈ ["a"], (p, "y") ∈ [("a", "x"), ("x", "y")] := by
  exact ⟨by decide +kernel, by decide, by decide⟩

end Derivation

/-- The aliases that a schema gives to the parents of a field never stray. -/
theorem Schema.bindsParents_parentAliases {s : Schema} {d : Derivation} {values : Record Value}
    (held : ∀ p ∈ d.parents, values.has p = true) :
    d.BindsParents values (s.parentAliases d) := by
  refine Derivation.bindsParents_of_not_hasStray held (Derivation.not_hasStray_of_keys ?_)
  intro e member
  have present : (s.parentAliases d).has e.1 = true :=
    (Record.has_iff_mem_names _ _).mpr (List.mem_map_of_mem member)
  have aliases : s.parentAliases d = Record.overlay [] (d.parents.filterMap
      (fun p => ((s.field? p).map Field.variableName).map (fun a => (p, a)))) := by
    simp only [parentAliases, Record.ofEntries, Option.map_map, Function.comp_def]
  rw [Record.has, aliases, Record.get?_overlay_filterMap] at present
  by_contra noParent
  rw [if_neg noParent] at present
  cases present

end FormEngine
