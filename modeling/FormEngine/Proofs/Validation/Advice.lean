/-
  FormEngine/Proofs/Validation/Advice.lean
  ========================================
  **Advice on a value agrees with the check of it.**

  Advice looks at the same rules as validation, but measures values and bounds with
  helpers of its own, which take zero, `false`, NaN and null for nothing at all.  On
  every other value the two agree: the advice is an error exactly if the rule fails
  (`severity_eq_error_iff`).  An empty collection has no text to be a password in the
  eyes of advice, and a text that is too poor for one in those of validation.

  The number in a suggestion is the least that helps.  What appending and removing
  characters do to a length rule depends on the length alone, so that the number that
  the suggestion names is the distance between length and bound
  (`counts_iff_isLeast`).
-/
import FormEngine.Proofs.Number.Digits
import FormEngine.Proofs.Outcome
import FormEngine.Validation.Message
import Mathlib.Order.Bounds.Basic

namespace FormEngine

/-! ### Values that advice counts as nothing -/

namespace Value

/-- Null, the empty text, `false`, zero and NaN. -/
def IsNaught : Value → Prop
  | .null => True
  | .text s => s = ""
  | .bool b => b = false
  | .number n => n.isZero = true ∨ n.isNaN = true
  | _ => False

variable {v : Value}

section

variable (something : ¬v.IsNaught)
include something

theorem isNull_eq_false : v.isNull = false := by
  cases v with
  | null => exact absurd trivial something
  | _ => rfl

theorem isUnset_eq_false : Validation.isUnset v = false := by
  cases v with
  | null => exact absurd trivial something
  | text s => simpa [Validation.isUnset, IsNaught] using something
  | _ => rfl

theorem shownText_eq_toText : Validation.shownText v = v.toText := by
  cases v with
  | null => exact absurd trivial something
  | _ => rfl

theorem currentLength_eq_lengthOf : Advice.currentLength v = Validation.lengthOf v := by
  cases v with
  | null => exact absurd trivial something
  | bool b =>
    cases b with
    | false => exact absurd rfl something
    | true => rfl
  | number n =>
    have counted : ¬(n.isZero || n.isNaN) = true := by
      rw [Bool.or_eq_true]
      exact something
    rw [Advice.currentLength, if_neg counted]
  | _ => rfl

/-- What remains of the bare values are the empty collections, and none of their texts will do
    as a password. -/
theorem passwordIssues_ne_nil_of_isBare (bare : Advice.isBare v = true)
    {issues : List Validation.PasswordIssue} (h : Validation.passwordIssues v = .ok issues) :
    issues ≠ [] := by
  cases v with
  | null => exact absurd trivial something
  | bool b => exact absurd (by simpa [Advice.isBare, IsNaught] using bare) something
  | number n => exact absurd (Or.inl bare) something
  | text s => exact absurd (by simpa [Advice.isBare, IsNaught] using bare) something
  -- an empty list is the empty text; an empty set and a mapping show as texts without a digit
  | list i items | tuple i items | set i items =>
    cases List.isEmpty_iff.mp bare
    cases h
    decide
  | mapping i entries =>
    cases h
    decide
  | date | function => cases bare

end

end Value

/-! ### Length rules -/

theorem Number.exists_truncated?_of_isFinite {x : Number} (finite : x.isFinite = true) :
    ∃ n, x.truncated? = some n := by
  unfold isFinite at finite
  unfold truncated?
  split at finite
  · exact ⟨_, rfl⟩
  · cases finite

namespace Rule

/-- The rule has a bound, which converts to a finite number. -/
def HasFiniteBound (r : Rule) : Prop :=
  ∃ b x, r.bound = some b ∧ b.toValue.toNumber = .ok x ∧ x.isFinite = true

variable {r : Rule} {v : Value} {bound : Int}

/-- Validation and advice read a finite bound as the same integer. -/
theorem HasFiniteBound.exists_bound (h : r.HasFiniteBound) :
    ∃ bound, r.lengthBound? = .ok (some bound) ∧ Advice.boundOf r.boundValue = .ok bound := by
  obtain ⟨b, x, isBound, read, finite⟩ := h
  obtain ⟨bound, whole⟩ := Number.exists_truncated?_of_isFinite finite
  refine ⟨bound, ?_, ?_⟩
  · simp only [lengthBound?, isBound, read]
    exact congrArg Except.ok whole
  · simp only [Advice.boundOf, boundValue, isBound, Option.map_some, Option.getD_some, read]
    exact congrArg (fun bound? => Except.ok (bound?.getD 0)) whole

/-- A length rule that was checked has measured the value. -/
theorem exists_length_of_failsLength {wrong : Int → Int → Bool} {failed : Bool}
    (isBound : r.lengthBound? = .ok (some bound)) (notNull : v.isNull = false)
    (h : r.failsLength wrong v = .ok failed) :
    ∃ length, Validation.lengthOf v = .ok length ∧ failed = wrong length bound := by
  rw [failsLength_of_bound isBound notNull] at h
  obtain ⟨length, measured, h⟩ := Except.bind_eq_ok_iff.mp h
  cases h
  exact ⟨length, measured, rfl⟩

theorem failsLength_text (wrong : Int → Int → Bool) (isBound : r.lengthBound? = .ok (some bound))
    (t : String) : r.failsLength wrong (.text t) = .ok (wrong t.length bound) :=
  failsLength_of_bound isBound rfl

theorem failure?_text_minLength (type : r.ruleType? = some .minLength)
    (isBound : r.lengthBound? = .ok (some bound)) (t : String) :
    r.failure? (.text t) = .ok none ↔ bound ≤ t.length := by
  have checked : r.fails (.text t) = .ok (decide ((t.length : Int) < bound)) := by
    rw [fails, type]
    exact failsLength_text _ isBound t
  rw [failure?_of_fails checked]
  simp

theorem failure?_text_maxLength (type : r.ruleType? = some .maxLength)
    (isBound : r.lengthBound? = .ok (some bound)) (t : String) :
    r.failure? (.text t) = .ok none ↔ (t.length : Int) ≤ bound := by
  have checked : r.fails (.text t) = .ok (decide (bound < (t.length : Int))) := by
    rw [fails, type]
    exact failsLength_text _ isBound t
  rw [failure?_of_fails checked]
  simp

/-- How many characters can be appended to the text so that the rule passes. -/
def appendings (r : Rule) (s : String) : Set Nat :=
  {n | ∃ more : String, more.length = n ∧ r.failure? (.text (s ++ more)) = .ok none}

/-- How many characters can be removed from the text, wherever they stand, so that the rule
    passes. -/
def removals (r : Rule) (s : String) : Set Nat :=
  {n | ∃ kept : String, kept.toList.Sublist s.toList ∧ kept.length + n = s.length ∧
    r.failure? (.text kept) = .ok none}

theorem mem_appendings_iff (type : r.ruleType? = some .minLength)
    (isBound : r.lengthBound? = .ok (some bound)) {s : String} {n : Nat} :
    n ∈ r.appendings s ↔ bound - s.length ≤ n := by
  constructor
  · rintro ⟨more, rfl, passed⟩
    rw [failure?_text_minLength type isBound, String.length_append] at passed
    omega
  · intro enough
    have length : (String.ofList (List.replicate n ' ')).length = n := by simp
    refine ⟨String.ofList (List.replicate n ' '), length, ?_⟩
    rw [failure?_text_minLength type isBound, String.length_append, length]
    omega

theorem mem_removals_iff (type : r.ruleType? = some .maxLength)
    (isBound : r.lengthBound? = .ok (some bound)) {s : String} {n : Nat} :
    n ∈ r.removals s ↔ n ≤ s.length ∧ s.length - bound ≤ n := by
  constructor
  · rintro ⟨kept, _, length, passed⟩
    rw [failure?_text_maxLength type isBound] at passed
    omega
  · rintro ⟨within, enough⟩
    have length : (String.ofList (s.toList.drop n)).length = s.length - n := by
      rw [String.length_ofList, List.length_drop, String.length_toList]
    refine ⟨String.ofList (s.toList.drop n), ?_, by omega, ?_⟩
    · rw [String.toList_ofList]
      exact List.drop_sublist n s.toList
    · rw [failure?_text_maxLength type isBound, length]
      omega

end Rule

/-! ### Suggestions -/

namespace Advice

variable {advice : Advice}

/-- The suggestion names the number between these words. -/
def Counts (advice : Advice) (before : String) (n : Nat) (after : String) : Prop :=
  ∃ rest, advice.suggestion = before ++ Text.decimal n ++ after ++ rest

theorem counts_iff {before after rest : String} {c : Char} {tail : List Char} {m n : Nat}
    (apart : after.toList = c :: tail) (notDigit : c.isDigit = false)
    (written : advice.suggestion = before ++ Text.decimal m ++ after ++ rest) :
    advice.Counts before n after ↔ n = m := by
  constructor
  · rintro ⟨other, named⟩
    rw [written, ← String.toList_inj] at named
    simp only [String.toList_append, Text.toList_decimal, apart, List.append_assoc,
      List.append_cancel_left_eq, List.cons_append] at named
    exact (Text.eq_of_toDigits_append notDigit named).symm
  · rintro rfl
    exact ⟨rest, written⟩

/-- A suggestion that names the distance, if there is one, names the least number that helps. -/
theorem counts_iff_isLeast {before after rest other : String} {c : Char} {tail : List Char}
    {distance : Int} {S : Set Nat} {n : Nat}
    (apart : after.toList = c :: tail) (notDigit : c.isDigit = false)
    (silent : ∀ n rest, other ≠ before ++ Text.decimal n ++ after ++ rest)
    (written : advice.suggestion =
      if 0 < distance then before ++ Text.decimal distance ++ after ++ rest else other)
    (lower : ∀ k ∈ S, distance ≤ k) (reached : distance.toNat ∈ S) :
    advice.Counts before n after ↔ 0 < n ∧ IsLeast S n := by
  have least : IsLeast S distance.toNat := by
    refine ⟨reached, ?_⟩
    intro k member
    have away := lower k member
    omega
  by_cases away : 0 < distance
  · have whole : distance = distance.toNat := by omega
    rw [if_pos away, whole] at written
    rw [counts_iff apart notDigit written]
    constructor
    · rintro rfl
      exact ⟨by omega, least⟩
    · rintro ⟨_, isLeast⟩
      exact isLeast.unique least
  · rw [if_neg away] at written
    constructor
    · rintro ⟨rest, named⟩
      exact absurd (written.symm.trans named) (silent _ rest)
    · rintro ⟨positive, isLeast⟩
      have same := isLeast.unique least
      omega

theorem severityOf_eq_error_iff {satisfied : Bool} :
    severityOf satisfied = .error ↔ satisfied = false := by
  cases satisfied <;> simp [severityOf]

/-! ### Advice on a value -/

variable {r : Rule} {v : Value} {label : String} {bound : Int}

theorem about_minLength (read : boundOf r.boundValue = .ok bound) {length : Int}
    (measured : currentLength v = .ok length)
    (advised : about (some .minLength) label v r.boundValue = .ok advice) :
    (advice.severity = .error ↔ length < bound) ∧
    advice.suggestion =
      if 0 < bound - length then
        "Add " ++ Text.decimal (bound - length) ++ " more character" ++
          ((if 1 < bound - length then "s" else "") ++ " (currently " ++ Text.decimal length ++ ")")
      else "Length requirement met" := by
  simp only [about, read, measured] at advised
  cases advised
  refine ⟨?_, ?_⟩
  · rw [severityOf_eq_error_iff]
    simp
  · rw [show " more character" = " more" ++ " character" from rfl]
    simp [characters, String.append_assoc]

theorem about_maxLength (read : boundOf r.boundValue = .ok bound) {length : Int}
    (measured : currentLength v = .ok length)
    (advised : about (some .maxLength) label v r.boundValue = .ok advice) :
    (advice.severity = .error ↔ bound < length) ∧
    advice.suggestion =
      if 0 < length - bound then
        "Remove " ++ Text.decimal (length - bound) ++ " character" ++
          ((if 1 < length - bound then "s" else "") ++ " (currently " ++ Text.decimal length ++ ")")
      else "Length is within limit" := by
  simp only [about, read, measured] at advised
  cases advised
  refine ⟨?_, ?_⟩
  · rw [severityOf_eq_error_iff]
    simp
  · simp [characters, String.append_assoc]

/-- **Advice is an error exactly if the rule fails**, for each type of rule by its own measure. -/
theorem severity_eq_error_iff {type : RuleType} (known : r.ruleType? = some type)
    (something : ¬v.IsNaught)
    (bounded : type = .minLength ∨ type = .maxLength → r.HasFiniteBound) {failed : Bool}
    (advised : about (some type) label v r.boundValue = .ok advice)
    (checked : r.fails v = .ok failed) : advice.severity = .error ↔ failed = true := by
  rw [Rule.fails, known] at checked
  cases type with
  | notEmpty =>
    cases advised
    cases checked
    rw [severityOf_eq_error_iff, Bool.not_eq_false']
  | minLength =>
    obtain ⟨bound, isBound, read⟩ := (bounded (Or.inl rfl)).exists_bound
    obtain ⟨length, measured, rfl⟩ :=
      Rule.exists_length_of_failsLength isBound (Value.isNull_eq_false something) checked
    rw [← Value.currentLength_eq_lengthOf something] at measured
    rw [(about_minLength read measured advised).1, decide_eq_true_iff]
  | maxLength =>
    obtain ⟨bound, isBound, read⟩ := (bounded (Or.inr rfl)).exists_bound
    obtain ⟨length, measured, rfl⟩ :=
      Rule.exists_length_of_failsLength isBound (Value.isNull_eq_false something) checked
    rw [← Value.currentLength_eq_lengthOf something] at measured
    rw [(about_maxLength read measured advised).1, decide_eq_true_iff]
  | email =>
    simp only [Value.isUnset_eq_false something, Bool.false_eq_true, if_false] at checked
    obtain ⟨address, written, same⟩ := Except.bind_eq_ok_iff.mp checked
    obtain ⟨shown, shownText, rest⟩ := Except.bind_eq_ok_iff.mp advised
    rw [Value.shownText_eq_toText something, written] at shownText
    cases shownText
    cases same
    cases rest
    rw [severityOf_eq_error_iff, Bool.not_eq_true']
  | customPassword =>
    simp only [Value.isUnset_eq_false something, Bool.false_eq_true, if_false] at checked
    obtain ⟨issues, lacking, same⟩ := Except.bind_eq_ok_iff.mp checked
    obtain ⟨advisedIssues, advisedLacking, rest⟩ := Except.bind_eq_ok_iff.mp advised
    cases same
    cases rest
    rw [severityOf_eq_error_iff, Bool.not_eq_true']
    -- a bare value is judged as the empty text by advice and as its own text by the check
    by_cases bare : isBare v = true
    · rw [if_pos bare] at advisedLacking
      cases advisedLacking
      have poor := Value.passwordIssues_ne_nil_of_isBare something bare lacking
      exact iff_of_true rfl (List.isEmpty_eq_false_iff.mpr poor)
    · rw [if_neg bare, lacking] at advisedLacking
      cases advisedLacking
      exact Iff.rfl

/-- The number that advice on a text asks to add is the least that makes the text long enough. -/
theorem counts_minLength (known : r.ruleType? = some .minLength)
    (isBound : r.lengthBound? = .ok (some bound)) (read : boundOf r.boundValue = .ok bound)
    {s : String} (advised : about (some .minLength) label (.text s) r.boundValue = .ok advice)
    (n : Nat) :
    advice.Counts "Add " n " more character" ↔ 0 < n ∧ IsLeast (r.appendings s) n := by
  have measured : currentLength (.text s) = .ok (s.length : Int) := rfl
  refine counts_iff_isLeast rfl rfl ?_ (about_minLength read measured advised).2 ?_ ?_
  · intro n rest same
    simp [← String.toList_inj] at same
  · intro k member
    exact (Rule.mem_appendings_iff known isBound).mp member
  · rw [Rule.mem_appendings_iff known isBound]
    omega

/-- The number that advice on a text asks to remove is the least that makes the text short enough,
    unless the bound is below the length of every text. -/
theorem counts_maxLength (known : r.ruleType? = some .maxLength)
    (isBound : r.lengthBound? = .ok (some bound)) (read : boundOf r.boundValue = .ok bound)
    {s : String} (advised : about (some .maxLength) label (.text s) r.boundValue = .ok advice)
    (notNegative : 0 ≤ bound) (n : Nat) :
    advice.Counts "Remove " n " character" ↔ 0 < n ∧ IsLeast (r.removals s) n := by
  have measured : currentLength (.text s) = .ok (s.length : Int) := rfl
  refine counts_iff_isLeast rfl rfl ?_ (about_maxLength read measured advised).2 ?_ ?_
  · intro n rest same
    simp [← String.toList_inj] at same
  · intro k member
    exact ((Rule.mem_removals_iff known isBound).mp member).2
  · rw [Rule.mem_removals_iff known isBound]
    omega

/-- **Advice agrees with the check.**  With a finite bound where the rule has use for one, the
    advice for a rule of a known type is an error exactly if the rule fails, on every value that is
    neither null, the empty text, `false`, zero nor NaN.  On a text, with a bound whose integer
    part is not negative, the suggestion names a number of characters to add or to remove exactly
    if some have to be, and then the least number with which the rule passes. -/
theorem about_agrees {type : RuleType} (known : r.ruleType? = some type)
    (bounded : type = .minLength ∨ type = .maxLength → r.HasFiniteBound)
    {failure : Option String}
    (advised : about (some type) label v r.boundValue = .ok advice)
    (checked : r.failure? v = .ok failure) :
    (¬v.IsNaught → (advice.severity = .error ↔ failure = some r.message)) ∧
    (∀ s bound n, v = .text s → r.lengthBound? = .ok (some bound) → 0 ≤ bound →
      (type = .minLength →
        (advice.Counts "Add " n " more character" ↔ 0 < n ∧ IsLeast (r.appendings s) n)) ∧
      (type = .maxLength →
        (advice.Counts "Remove " n " character" ↔ 0 < n ∧ IsLeast (r.removals s) n))) := by
  constructor
  · intro something
    obtain ⟨failed, fails, _⟩ := Except.bind_eq_ok_iff.mp checked
    rw [Rule.failure?_of_fails fails] at checked
    cases checked
    rw [severity_eq_error_iff known something bounded advised fails]
    cases failed <;> simp
  · rintro s bound n rfl isBound notNegative
    constructor
    · rintro rfl
      obtain ⟨_, same, read⟩ := (bounded (Or.inl rfl)).exists_bound
      cases isBound.symm.trans same
      exact counts_minLength known isBound read advised n
    · rintro rfl
      obtain ⟨_, same, read⟩ := (bounded (Or.inr rfl)).exists_bound
      cases isBound.symm.trans same
      exact counts_maxLength known isBound read advised notNegative n

/-- A bound that is given as text, with blanks. -/
def titleAtLeast : Rule := ⟨"minLength", some (.text " 8 "), "Too short"⟩

def titleAtMost : Rule := ⟨"maxLength", some (.number 3), "Too long"⟩

theorem about_agrees_title :
    ¬(Value.text "draft").IsNaught ∧ titleAtLeast.HasFiniteBound ∧ titleAtMost.HasFiniteBound ∧
    titleAtLeast.failure? (.text "draft") = .ok (some "Too short") ∧
    titleAtMost.failure? (.text "draft") = .ok (some "Too long") ∧
    (∃ advice, about (some .minLength) "Title" (.text "draft") titleAtLeast.boundValue = .ok advice ∧
      advice.suggestion = "Add 3 more characters (currently 5)" ∧ advice.severity = .error) ∧
    IsLeast (titleAtLeast.appendings "draft") 3 ∧
    IsLeast (titleAtMost.removals "draft") 2 := by
  have something : ¬(Value.text "draft").IsNaught := by simp [Value.IsNaught]
  have least : titleAtLeast.HasFiniteBound := ⟨_, _, rfl, rfl, rfl⟩
  have most : titleAtMost.HasFiniteBound := ⟨_, _, rfl, rfl, rfl⟩
  have short : titleAtLeast.failure? (.text "draft") = .ok (some "Too short") := rfl
  have long : titleAtMost.failure? (.text "draft") = .ok (some "Too long") := rfl
  have adding : about (some .minLength) "Title" (.text "draft") titleAtLeast.boundValue =
      .ok ⟨"Title must be at least 8 characters long", "Add 3 more characters (currently 5)",
        .error⟩ := rfl
  have removing : about (some .maxLength) "Title" (.text "draft") titleAtMost.boundValue =
      .ok ⟨"Title must not exceed 3 characters", "Remove 2 characters (currently 5)", .error⟩ := by
    rfl
  have asksLeast : titleAtLeast.ruleType? = some .minLength := by decide
  have asksMost : titleAtMost.ruleType? = some .maxLength := by decide
  have forShort := about_agrees asksLeast (fun _ => least) adding short
  have forLong := about_agrees asksMost (fun _ => most) removing long
  refine ⟨something, least, most, short, long, ?_, ?_, ?_⟩
  · exact ⟨_, adding, rfl, (forShort.1 something).mpr rfl⟩
  · have counted := (forShort.2 "draft" 8 3 rfl rfl (by decide)).1 rfl
    exact (counted.mp ⟨"s (currently 5)", rfl⟩).2
  · have counted := (forLong.2 "draft" 3 2 rfl rfl (by decide)).2 rfl
    exact (counted.mp ⟨"s (currently 5)", rfl⟩).2

end Advice

end FormEngine
