/-
  FormEngine/Proofs/Expression/Substrings.lean
  ============================================
  **Parts of texts: substrings and elements.**

  A number of any kind names a cut of a text: what lies before the text, NaN included, its
  beginning, what lies behind its end, and every other number the cut at its integer part
  (`clampedIndex_le`).  `String.substring` takes the characters between two cuts, in
  whichever order they come, so two substrings that meet at one cut make up the text and
  nothing is lost or doubled there (`between_append`).

  An element is found by another rule: its place has to be a natural number, and nothing
  is drawn to the ends of the text.  In the safe range the place is the integer itself, so
  there the element is the substring of length one (`indexesAsSubstring_of`).  Beyond that
  range places are rounded, which shows in texts of more than 2^53 characters only.
-/
import FormEngine.Expression.Evaluation
import FormEngine.Proofs.Number.SafeIntegers
import FormEngine.Proofs.Outcome

namespace FormEngine

namespace Library

variable {s : List Char} {i j k length : Nat} {x y : Number} {n : Int}

/-! ### Cuts -/

theorem clampedIndex_le (x : Number) (length : Nat) : clampedIndex x length ≤ length := by
  unfold clampedIndex
  split
  · exact Nat.zero_le length
  · exact Nat.zero_le length
  · exact le_rfl
  · exact Nat.min_le_right _ length

theorem clampedIndex_of_extent? (worth : x.extent? = some (.at n)) :
    clampedIndex x length = min n.toNat length := by
  rw [clampedIndex, worth]
  dsimp only
  rw [Binary64.truncated_intCast]

theorem clampedIndex_int (close : n.natAbs ≤ Number.maxSafeInteger + 1) :
    clampedIndex (Number.int n).normalise length = min n.toNat length :=
  clampedIndex_of_extent? (Number.isExact_int_of_le_succ close)

theorem between_comm (s : List Char) (i j : Nat) : between s i j = between s j i := by
  rw [between, between, Nat.min_comm, Nat.max_comm]

theorem between_self (s : List Char) (i : Nat) : between s i i = [] := by
  rw [between, Nat.min_self, Nat.max_self]
  exact List.drop_eq_nil_of_le (List.length_take_le i s)

theorem between_of_le (ordered : i ≤ j) : between s i j = (s.take j).drop i := by
  rw [between, Nat.min_eq_left ordered, Nat.max_eq_right ordered]

/-- The parts before and behind a cut make up the text. -/
theorem between_append (within : k ≤ s.length) : between s 0 k ++ between s k s.length = s := by
  rw [between_of_le (Nat.zero_le k), between_of_le within, List.drop_zero, List.take_length,
    List.take_append_drop]

theorem between_succ (within : i < s.length) : between s i (i + 1) = [s[i]] := by
  have ordered : i ≤ i + 1 := Nat.le_add_right i 1
  rw [between_of_le ordered, List.drop_take, Nat.add_sub_cancel_left,
    List.drop_eq_getElem_cons within, List.take_succ_cons, List.take_zero]

/-! ### Substrings -/

theorem substring_given {t : String} {v w : Value} (first : v.toNumber = .ok x)
    (second : w.toNumber = .ok y) (notNull : w ≠ .null) :
    apply .substring [.text t, v, w] =
      .ok (.text (String.ofList
        (between t.toList (clampedIndex x t.toList.length) (clampedIndex y t.toList.length)))) := by
  have start : numberArgument [.text t, v, w] 1 = .ok x := first
  have stop : optionalArgument [.text t, v, w] 2 = some w := by
    cases w with
    | null => exact absurd rfl notNull
    | _ => rfl
  rw [apply, substring, start, stop]
  simp only [second]
  rfl

theorem substring_open {t : String} {v : Value} (first : v.toNumber = .ok x) :
    apply .substring [.text t, v] =
      .ok (.text (String.ofList
        (between t.toList (clampedIndex x t.toList.length) t.toList.length))) := by
  have start : numberArgument [.text t, v] 1 = .ok x := first
  rw [apply, substring, start]
  rfl

theorem concat_texts (s t : List Char) :
    apply .concat [.text (String.ofList s), .text (String.ofList t)] =
      .ok (.text (String.ofList (s ++ t))) := by
  have joined : String.join [String.ofList s, String.ofList t] = String.ofList (s ++ t) := by
    simp [String.join]
  exact congrArg (fun r => Except.ok (Value.text r)) joined

/-- Two cuts that are integers next to each other have one character between them. -/
theorem substring_single {t : String} (within : i < t.toList.length)
    (safe : i ≤ Number.maxSafeInteger) :
    apply .substring [.text t, .int i, .int (i + 1)] =
      .ok (.text (String.ofList [t.toList[i]])) := by
  have start : clampedIndex (Number.int i).normalise t.toList.length = i := by
    rw [clampedIndex_int (by omega), Int.toNat_natCast, Nat.min_eq_left within.le]
  have stop : clampedIndex (Number.int (i + 1)).normalise t.toList.length = i + 1 := by
    rw [clampedIndex_int (by omega), Int.toNat_natCast_add_one, Nat.min_eq_left within]
  rw [substring_given rfl rfl (by nofun), start, stop, between_succ within]

/-- Beyond the safe range two integers are rounded to one cut. -/
theorem substring_rounded (t : String) :
    apply .substring [.text t, .int (Number.maxSafeInteger + 1),
      .int (Number.maxSafeInteger + 1 + 1)] = .ok (.text "") := by
  have same : (Number.int (Number.maxSafeInteger + 1)).normalise =
      (Number.int (Number.maxSafeInteger + 1 + 1)).normalise := by
    decide +kernel
  rw [substring_given rfl rfl (by nofun), same, between_self, String.ofList_nil]

end Library

/-! ### Elements -/

namespace Evaluation

variable {t : String} {x : Number} {k : Nat} {p : Int}

theorem place?_eq_some_iff : place? x = some k ↔ x.extent? = some (.at (k : ℚ)) := by
  unfold place?
  constructor
  · intro found
    split at found
    · next q worth =>
      split at found
      · next natural =>
        cases found
        have whole : (q.num : ℚ) = q := Rat.coe_int_num_of_den_eq_one natural.1
        have index : ((q.num.toNat : Nat) : Int) = q.num := Int.toNat_of_nonneg natural.2
        rw [worth, ← Int.cast_natCast, index, whole]
      · cases found
    · cases found
  · intro worth
    rw [worth]
    simp

/-- The place of an integer is the integer itself, unless it was rounded beyond the safe range. -/
theorem eq_or_large_of_place? (found : place? (Number.int p).normalise = some k) :
    p = k ∨ Number.maxSafeInteger < p.natAbs ∧ Number.maxSafeInteger < k := by
  have worth := place?_eq_some_iff.mp found
  by_cases safe : p.natAbs ≤ Number.maxSafeInteger
  · left
    rw [Number.normalise_int_of_le safe, Number.extent?, Option.some.injEq, Extent.at.injEq]
      at worth
    exact_mod_cast worth
  · right
    rw [Number.normalise, if_neg safe, Number.extent?_float_eq_at_iff] at worth
    have integral : (Binary64.ofInt p).toInt? = some (k : Int) := by
      apply Binary64.toInt?_eq_some_iff.mpr
      exact_mod_cast worth
    have large := Nat.lt_of_not_le safe
    exact ⟨large, Binary64.beyond_of_toInt?_ofInt large integral⟩

/-- An element of a text is one character or null. -/
theorem element_text (t : String) (p : Int) :
    element (.text t) (.int p) =
      .ok (((place? (Number.int p).normalise).bind (t.toList[·]?)).elim .null
        fun c => .text (String.ofList [c])) := rfl

theorem element_of_within (within : k < t.toList.length) (safe : k ≤ Number.maxSafeInteger) :
    element (.text t) (.int k) = .ok (.text (String.ofList [t.toList[k]])) := by
  have found : place? (Number.int k).normalise = some k := by
    rw [place?_eq_some_iff, Number.normalise_int_of_le (by omega), Number.extent?,
      Int.cast_natCast]
  rw [element_text, found, Option.bind_some, List.getElem?_eq_getElem within, Option.elim_some]

theorem element_of_outside (outside : ∀ k, place? (Number.int p).normalise = some k →
    t.toList.length ≤ k) : element (.text t) (.int p) = .ok .null := by
  have missing : (place? (Number.int p).normalise).bind (t.toList[·]?) = none := by
    rw [Option.bind_eq_none_iff]
    intro k found
    exact List.getElem?_eq_none (outside k found)
  rw [element_text, missing, Option.elim_none]

theorem element_ne_empty (t : String) (p : Int) : element (.text t) (.int p) ≠ .ok (.text "") := by
  rw [element_text]
  intro empty
  cases found : (place? (Number.int p).normalise).bind (t.toList[·]?) with
  | none =>
    rw [found] at empty
    cases empty
  | some c =>
    rw [found, Option.elim_some, Except.ok.injEq, Value.text.injEq, String.ofList_eq_empty_iff]
      at empty
    cases empty

/-- Wherever an expression accesses the text by the integer, it has the substring from the integer
    to the next one, and null if no character stands there. -/
def IndexesAsSubstring (t : String) (p : Int) : Prop :=
  ∀ (bindings : Bindings) (occasion : Occasion) (here : List Nat) (target place : Expr),
    valueAt bindings occasion (0 :: here) target = .ok (.text t) →
    valueAt bindings occasion (1 :: here) place = .ok (.int p) →
    valueAt bindings occasion here (.index target place) =
      if 0 ≤ p ∧ p < t.length then
        converting (Library.apply .substring [.text t, .int p, .int (p + 1)])
      else .ok .null

theorem indexesAsSubstring_iff : IndexesAsSubstring t p ↔
    element (.text t) (.int p) =
      if 0 ≤ p ∧ p < t.length then
        converting (Library.apply .substring [.text t, .int p, .int (p + 1)])
      else .ok .null := by
  constructor
  · intro indexes
    exact indexes [] {} [] (.literal (.text t)) (.literal (.number (.int p))) rfl rfl
  · intro same bindings occasion here target place isText isPlace
    rw [valueAt, isText, isPlace]
    exact same

/-- An integer that is rounded is no place in a text that ends with the safe range. -/
theorem indexesAsSubstring_of (near : t.length ≤ Number.maxSafeInteger + 1 ∨
    p.natAbs ≤ Number.maxSafeInteger) : IndexesAsSubstring t p := by
  rw [← String.length_toList] at near
  rw [indexesAsSubstring_iff, ← String.length_toList]
  by_cases within : 0 ≤ p ∧ p < t.toList.length
  · obtain ⟨k, rfl⟩ := Int.eq_ofNat_of_zero_le within.1
    have inside : k < t.toList.length := by omega
    have safe : k ≤ Number.maxSafeInteger := by omega
    rw [if_pos within, element_of_within inside safe, Library.substring_single inside safe]
    rfl
  · rw [if_neg within]
    apply element_of_outside
    intro k found
    rcases eq_or_large_of_place? found with same | ⟨large, beyond⟩
    · omega
    · omega

/-- In a longer text the first place beyond the safe range has an element, but no substring. -/
theorem not_indexesAsSubstring (long : Number.maxSafeInteger + 1 < t.length) :
    ¬IndexesAsSubstring t (Number.maxSafeInteger + 1) := by
  rw [indexesAsSubstring_iff, if_pos (by omega), Library.substring_rounded]
  exact element_ne_empty t _

/-- For a text and values that are numbers, none of them null: the substring between two of them
    is the same in either order; the substrings before and behind one of them make up the text;
    and an integer in the safe range indexes the substring of the one character there, null if
    there is none.  Indexing agrees with substrings for all integers whatever exactly if the text
    has at most 2^53 characters, which would already fill nine petabytes. -/
theorem substring_cuts {v w : Value} {x y : Number} (t : String) (first : v.toNumber = .ok x)
    (second : w.toNumber = .ok y) (firstNotNull : v ≠ .null) (secondNotNull : w ≠ .null) :
    (∃ part, Library.apply .substring [.text t, v, w] = .ok (.text part) ∧
      Library.apply .substring [.text t, w, v] = .ok (.text part)) ∧
    (∃ front back, Library.apply .substring [.text t, .int 0, v] = .ok (.text front) ∧
      Library.apply .substring [.text t, v] = .ok (.text back) ∧
      Library.apply .concat [.text front, .text back] = .ok (.text t)) ∧
    (∀ p : Int, p.natAbs ≤ Number.maxSafeInteger → IndexesAsSubstring t p) ∧
    ((∀ p, IndexesAsSubstring t p) ↔ t.length ≤ Number.maxSafeInteger + 1) := by
  have cut := Library.clampedIndex_le x t.toList.length
  have zero : Library.clampedIndex (Number.int 0).normalise t.toList.length = 0 := by
    rw [Library.clampedIndex_int (Nat.zero_le _), Int.toNat_zero, Nat.zero_min]
  refine ⟨⟨_, Library.substring_given first second secondNotNull, ?_⟩,
    ⟨_, _, Library.substring_given rfl first firstNotNull, Library.substring_open first, ?_⟩,
    ?_, ?_, ?_⟩
  · rw [Library.substring_given second first firstNotNull, Library.between_comm]
  · rw [Library.concat_texts, zero, Library.between_append cut, String.ofList_toList]
  · intro p safe
    exact indexesAsSubstring_of (.inr safe)
  · intro agrees
    by_contra long
    exact not_indexesAsSubstring (Nat.lt_of_not_le long) (agrees _)
  · intro short p
    exact indexesAsSubstring_of (.inl short)

/-- Cut at a text that is a number and at minus infinity, and indexed beyond every float. -/
theorem substring_cuts_abc :
    (Value.text " 2").toNumber = .ok (.int 2) ∧
      (Value.float (.infinite true)).toNumber = .ok (Number.infinity true) ∧
      Library.apply .substring [.text "abc", .text " 2", .float (.infinite true)] =
        .ok (.text "ab") ∧
      Library.apply .substring [.text "abc", .float (.infinite true), .text " 2"] =
        .ok (.text "ab") ∧
      IndexesAsSubstring "abc" (10 ^ 400) := by
  have first : (Value.text " 2").toNumber = .ok (.int 2) := by decide +kernel
  have second : (Value.float (.infinite true)).toNumber = .ok (Number.infinity true) := rfl
  obtain ⟨⟨part, forward, backward⟩, _, _, indexes⟩ :=
    substring_cuts "abc" first second (by nofun) (by nofun)
  have value : Library.apply .substring [.text "abc", .text " 2", .float (.infinite true)] =
      .ok (.text "ab") := by rfl
  rw [value] at forward
  cases forward
  exact ⟨first, second, value, backward, indexes.mpr (by decide) _⟩

end Evaluation

end FormEngine
