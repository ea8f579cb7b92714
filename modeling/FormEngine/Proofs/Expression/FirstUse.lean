/-
  FormEngine/Proofs/Expression/FirstUse.lean
  ==========================================
  **Which variables are collected, and in what order.**

  An expression mentions a name either as a value or as the namespace of an access;
  `mentions` lists both kinds as they are written, by recursion on the tree.  The
  variables collected are the names used as values, each at its first use, but for
  those of namespaces that are accessed before they are used
  (`variableNames_eq_firstUses`).

  The walk keeps one list of the names it met, for both kinds.  So a namespace whose
  name is a variable too is collected or not, according to which of the two is
  written first (`variableNames_ne_of_accessFirst`).
-/
import FormEngine.Expression.Traversal

namespace FormEngine.Expr

/-! ### Mentions -/

/-- How an expression mentions a name. -/
inductive Mention where
  /-- The name stands for a value. -/
  | use (name : String)
  /-- The name is the namespace of an access, as in `Math.PI`. -/
  | access (space : String)
deriving DecidableEq, Repr

def Mention.name : Mention → String
  | .use name | .access name => name

/-- The name, if it stands for a value. -/
def Mention.used? : Mention → Option String
  | .use name => some name
  | .access _ => none

/-- The namespace that the target of an access names. -/
def spaceName? : Expr → Option String
  | .identifier name => if Library.isSpace name then some name else none
  | _ => none

mutual

/-- The names that an expression mentions, as they are written. -/
def mentions : Expr → List Mention
  | .literal _ => []
  | .identifier name => [.use name]
  | .member target _ =>
    match spaceName? target with
    | some space => [.access space]
    | none => mentions target
  | .index target place => mentions target ++ mentions place
  | .call _ _ arguments => mentionsAmong arguments
  | .array items => mentionsAmong items
  | .binary _ left right => mentions left ++ mentions right
  | .unary _ operand => mentions operand
  | .conditional condition thenBranch elseBranch =>
    mentions condition ++ mentions thenBranch ++ mentions elseBranch

/-- The names that several expressions mention. -/
def mentionsAmong : List Expr → List Mention
  | [] => []
  | e :: rest => mentions e ++ mentionsAmong rest

end

/-- The names of the identifiers of an expression, without those that are the namespace of an
    access. -/
def usedNames (e : Expr) : List String := e.mentions.filterMap Mention.used?

/-- Where the name is mentioned first, it is the namespace of an access. -/
def isAccessedFirst (ms : List Mention) (name : String) : Bool :=
  ms.find? (fun m => m.name == name) == some (.access name)

/-- The names in use, each where it is first met, without those that are met already. -/
def firstUses : (seen : List String) → List Mention → List String
  | _, [] => []
  | seen, .access space :: rest => firstUses (space :: seen) rest
  | seen, .use name :: rest =>
    if seen.contains name then firstUses seen rest else name :: firstUses (name :: seen) rest

variable {e : Expr} {es fs : List Expr} {ms : List Mention} {seen : List String}
  {name other : String}

theorem mentionsAmong_append (es fs : List Expr) :
    mentionsAmong (es ++ fs) = mentionsAmong es ++ mentionsAmong fs := by
  induction es with
  | nil => rfl
  | cons e es ih => rw [List.cons_append, mentionsAmong, mentionsAmong, ih, List.append_assoc]

/-- A node that is neither a name nor an access of a namespace mentions what its children do. -/
theorem mentions_of_children (noAccess : accessedSpace? e = none)
    (noName : ∀ name, e ≠ .identifier name) : e.mentions = mentionsAmong e.children := by
  cases e with
  | identifier name => exact absurd rfl (noName name)
  | member target property =>
    have noSpace : spaceName? target = none := by
      cases target with
      | identifier name => exact noAccess
      | _ => rfl
    simp [mentions, noSpace, children, mentionsAmong]
  | _ => simp [mentions, children, mentionsAmong]

theorem exists_of_accessedSpace? {space : String} (h : accessedSpace? e = some space) :
    ∃ property, e = .member (.identifier space) property ∧ e.mentions = [.access space] := by
  unfold accessedSpace? at h
  split at h
  · next name property =>
    split at h
    · next isSpace =>
      cases h
      exact ⟨property, rfl, by simp [mentions, spaceName?, isSpace]⟩
    · cases h
  · cases h

/-! ### The walk -/

theorem collectVariables_of_access {space : String} (h : accessedSpace? e = some space) :
    collectVariables seen (e :: es) = collectVariables (space :: seen) es := by
  cases e <;> simp [collectVariables, h]

theorem collectVariables_identifier :
    collectVariables seen (.identifier name :: es) =
      if seen.contains name then collectVariables seen es
      else name :: collectVariables (name :: seen) es := by
  simp [collectVariables, accessedSpace?]

theorem collectVariables_of_other (noAccess : accessedSpace? e = none)
    (noName : ∀ name, e ≠ .identifier name) :
    collectVariables seen (e :: es) = collectVariables seen es := by
  cases e with
  | identifier name => exact absurd rfl (noName name)
  | _ => simp [collectVariables, noAccess]

/-- The walk collects the first uses among the mentions of the trees on its stack. -/
theorem collectVariables_walkStack (seen : List String) (es : List Expr) :
    collectVariables seen (walkStack es) = firstUses seen (mentionsAmong es) := by
  induction es using walkStack.induct generalizing seen with
  | case1 =>
    rw [walkStack, mentionsAmong]
    rfl
  | case2 e stack ih =>
    rw [mentionsAmong_append] at ih
    rw [walkStack, mentionsAmong]
    cases access : accessedSpace? e with
    | some space =>
      -- the target of the access comes next, and its name has just been met
      obtain ⟨property, rfl, mentioned⟩ := exists_of_accessedSpace? access
      have known : (space :: seen).contains space = true := by simp
      have target : mentionsAmong (children (.member (.identifier space) property)) =
          [.use space] := rfl
      rw [collectVariables_of_access access, ih, target, mentioned]
      simp only [List.singleton_append, firstUses, known, if_true]
    | none =>
      by_cases isName : ∃ name, e = .identifier name
      · obtain ⟨name, rfl⟩ := isName
        have alone : mentions (.identifier name) = [.use name] := by rw [mentions]
        have leaf : mentionsAmong (children (.identifier name)) = [] := rfl
        rw [collectVariables_identifier, ih, ih, alone, leaf, List.singleton_append, firstUses,
          List.nil_append]
      · have noName : ∀ name, e ≠ .identifier name := fun name same => isName ⟨name, same⟩
        rw [collectVariables_of_other access noName, ih, mentions_of_children access noName]

/-! ### First uses -/

theorem isAccessedFirst_access {space : String} :
    isAccessedFirst (.access space :: ms) name = (name == space || isAccessedFirst ms name) := by
  by_cases same : name = space
  · simp [isAccessedFirst, Mention.name, same]
  · simp [isAccessedFirst, Mention.name, same, Ne.symm same]

theorem isAccessedFirst_use :
    isAccessedFirst (.use other :: ms) name = (name != other && isAccessedFirst ms name) := by
  by_cases same : name = other
  · simp [isAccessedFirst, Mention.name, same]
  · simp [isAccessedFirst, Mention.name, same, Ne.symm same]

/-- The first uses are the names in use, without repetition, that are neither met already nor
    accessed first. -/
theorem firstUses_eq (seen : List String) (ms : List Mention) :
    firstUses seen ms = ((ms.filterMap Mention.used?).filter
      (fun name => !seen.contains name && !isAccessedFirst ms name)).eraseDups := by
  induction ms generalizing seen with
  | nil => rfl
  | cons m ms ih =>
    cases m with
    | access space =>
      rw [firstUses, ih]
      refine congrArg List.eraseDups (List.filter_congr (fun name _ => ?_))
      rw [isAccessedFirst_access, List.contains_cons, Bool.not_or, Bool.not_or, Bool.and_assoc,
        Bool.and_left_comm]
    | use other =>
      have uses : (Mention.use other :: ms).filterMap Mention.used? =
          other :: ms.filterMap Mention.used? := rfl
      have first : isAccessedFirst (.use other :: ms) other = false := by
        rw [isAccessedFirst_use, bne_self_eq_false, Bool.false_and]
      have later : ∀ name, name ≠ other →
          isAccessedFirst (.use other :: ms) name = isAccessedFirst ms name := by
        intro name differs
        rw [isAccessedFirst_use, bne_iff_ne.mpr differs, Bool.true_and]
      rw [firstUses, uses, List.filter_cons, first]
      by_cases known : seen.contains other = true
      · rw [if_pos known, known, if_neg (by decide), ih]
        refine congrArg List.eraseDups (List.filter_congr (fun name _ => ?_))
        by_cases same : name = other
        · rw [same, known, Bool.not_true, Bool.false_and, Bool.false_and]
        · rw [later name same]
      · rw [Bool.not_eq_true] at known
        rw [known, if_neg Bool.false_ne_true, if_pos (by decide), ih, List.eraseDups_cons,
          List.filter_filter]
        refine congrArg (other :: List.eraseDups ·) (List.filter_congr (fun name _ => ?_))
        rw [List.contains_cons, Bool.not_or, Bool.and_assoc]
        by_cases same : name = other
        · rw [same, BEq.rfl, Bool.not_true, Bool.false_and, Bool.false_and]
        · rw [later name same]

theorem nodup_eraseDups (names : List String) : names.eraseDups.Nodup := by
  cases names with
  | nil => exact List.nodup_nil
  | cons name rest =>
    rw [List.eraseDups_cons, List.nodup_cons]
    constructor
    · intro again
      simpa using List.mem_eraseDups.mp again
    · exact nodup_eraseDups _
termination_by names.length
decreasing_by exact Nat.lt_succ_of_le (List.length_filter_le _ _)

/-- **The variables are the names used before any access of them**, each once and in the order of
    first uses.  So they are all the names in use exactly if no name in use is accessed first. -/
theorem variableNames_eq_firstUses (e : Expr) :
    e.variableNames =
        (e.usedNames.filter (fun name => !isAccessedFirst e.mentions name)).eraseDups ∧
      e.variableNames.Nodup ∧
      (e.variableNames = e.usedNames.eraseDups ↔
        ∀ name ∈ e.usedNames, isAccessedFirst e.mentions name = false) := by
  have collected : e.variableNames =
      (e.usedNames.filter (fun name => !isAccessedFirst e.mentions name)).eraseDups := by
    have single : mentionsAmong [e] = e.mentions := by simp [mentionsAmong]
    rw [variableNames, walk, collectVariables_walkStack, firstUses_eq, single]
    simp [usedNames]
  refine ⟨collected, ?_, ?_⟩
  · rw [collected]
    exact nodup_eraseDups _
  · rw [collected]
    constructor
    · intro all name used
      have listed := List.mem_eraseDups.mpr used
      rw [← all, List.mem_eraseDups, List.mem_filter] at listed
      simpa using listed.2
    · intro before
      rw [List.filter_eq_self.mpr (fun name used => by simp [before name used])]

/-- A constant of a namespace, and a variable with the name of the namespace behind it. -/
def constantFirst : Expr :=
  .binary .add (.member (.identifier "Math") "PI") (.identifier "Math")

/-- The same sum with the variable in front. -/
def constantLast : Expr :=
  .binary .add (.identifier "Math") (.member (.identifier "Math") "PI")

/-- A variable with the name of a namespace is lost if an access of the namespace stands in front
    of it, and collected if the access stands behind it. -/
theorem variableNames_ne_of_accessFirst :
    constantFirst.variableNames ≠ constantFirst.usedNames.eraseDups ∧
      constantFirst.usedNames = constantLast.usedNames ∧
      constantFirst.variableNames = [] ∧ constantLast.variableNames = ["Math"] := by
  decide +kernel

end FormEngine.Expr
