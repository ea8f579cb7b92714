/-
  FormEngine/Proofs/Text/Blanks.lean
  ==================================
  **Blanks, and what trimming leaves of a text.**

  A blank is neither a letter nor a digit of any script.  Trimming takes a run of blanks
  from each end (`exists_trimLeft_eq`, `exists_trimRight_append`), so it keeps every
  character that is not blank (`mem_trim`), and visible characters in front of a text
  keep what follows them from being trimmed at its front (`exists_trim_append`).
-/
import FormEngine.Text.Alphanumeric
import FormEngine.Text.Blank
import FormEngine.Text.DecimalDigit

namespace FormEngine.Text

variable {c : Char} {s u w : List Char}

/-! ### The class -/

theorem inRanges_eq_false_of_apart {as bs : List (Nat × Nat)} {n : Nat}
    (apart : as.all (fun a => bs.all (fun b => decide (a.2 < b.1) || decide (b.2 < a.1))) = true)
    (h : inRanges as n = true) : inRanges bs n = false := by
  obtain ⟨a, member, inside⟩ := List.any_eq_true.mp h
  rw [inRanges, List.any_eq_false]
  intro b member'
  have disjoint := List.all_eq_true.mp (List.all_eq_true.mp apart a member) b member'
  simp only [Bool.and_eq_true, Bool.or_eq_true, decide_eq_true_eq] at disjoint inside ⊢
  omega

theorem isAlphanumeric_of_isBlank (blank : isBlank c = true) : isAlphanumeric c = false :=
  inRanges_eq_false_of_apart (by decide +kernel) blank

theorem isDecimalDigit_of_isBlank (blank : isBlank c = true) : isDecimalDigit c = false := by
  have apart : inRanges (digitZeros.map (fun z => (z, z + 9))) c.toNat = false :=
    inRanges_eq_false_of_apart (by decide +kernel) blank
  rw [inRanges, List.any_map, List.any_eq_false] at apart
  rw [isDecimalDigit, digitValue?, Option.isSome_map, Bool.eq_false_iff]
  intro digit
  obtain ⟨z, member, within⟩ := List.find?_isSome.mp digit
  exact apart z member within

/-- The printed characters of ASCII are not blank. -/
theorem isBlank_of_printed (lower : 33 ≤ c.toNat) (upper : c.toNat ≤ 126) : isBlank c = false := by
  simp only [isBlank, inRanges, blankRanges, List.any_cons, List.any_nil, Bool.or_false,
    Bool.or_eq_false_iff, Bool.and_eq_false_iff, decide_eq_false_iff_not]
  omega

theorem isBlank_of_isDigit (digit : c.isDigit = true) : isBlank c = false := by
  simp only [Char.isDigit, Bool.and_eq_true, decide_eq_true_eq] at digit
  have lower : 48 ≤ c.toNat := digit.1
  have upper : c.toNat ≤ 57 := digit.2
  exact isBlank_of_printed (by omega) (by omega)

theorem not_mem_of_isBlank {cs : List Char} (blank : isBlank c = true)
    (visible : cs.all (fun d => !isBlank d) = true) : c ∉ cs := by
  intro member
  have shown := List.all_eq_true.mp visible c member
  rw [blank] at shown
  cases shown

/-! ### Trimming a text without blanks -/

theorem trimLeft_eq_self (visible : ∀ c ∈ s, isBlank c = false) : trimLeft s = s := by
  cases s with
  | nil => rfl
  | cons c s => exact trimLeft_cons_of_not_blank (visible c List.mem_cons_self) s

theorem trim_eq_self (visible : ∀ c ∈ s, isBlank c = false) : trim s = s := by
  have behind : ∀ c ∈ s.reverse, isBlank c = false :=
    fun c member => visible c (List.mem_reverse.mp member)
  have right := trimLeft_eq_self behind
  rw [trimLeft] at right
  rw [trim, trimLeft_eq_self visible, trimRight, right, List.reverse_reverse]

/-! ### What trimming takes -/

/-- Trimming takes blanks only. -/
theorem mem_trimLeft (member : c ∈ s) (visible : isBlank c = false) : c ∈ trimLeft s := by
  induction s with
  | nil => cases member
  | cons d s ih =>
    cases blank : isBlank d with
    | false =>
      rw [trimLeft_cons_of_not_blank blank]
      exact member
    | true =>
      rw [trimLeft_cons_of_blank blank]
      rcases List.mem_cons.mp member with rfl | inside
      · rw [visible] at blank
        cases blank
      · exact ih inside

theorem mem_trim (member : c ∈ s) (visible : isBlank c = false) : c ∈ trim s := by
  have left := mem_trimLeft member visible
  have right := mem_trimLeft (List.mem_reverse.mpr left) visible
  exact List.mem_reverse.mpr right

theorem exists_trimRight_append (s : List Char) :
    ∃ w, isBlankText w = true ∧ s = trimRight s ++ w := by
  refine ⟨(s.reverse.takeWhile isBlank).reverse, ?_, ?_⟩
  · rw [isBlankText, List.all_reverse]
    exact List.all_takeWhile
  · rw [trimRight, ← List.reverse_append, List.takeWhile_append_dropWhile, List.reverse_reverse]

theorem exists_trimLeft_eq (s : List Char) :
    ∃ w, isBlankText w = true ∧ trimLeft s = trim s ++ w :=
  exists_trimRight_append (trimLeft s)

theorem length_trim_le (s : List Char) : (trim s).length ≤ s.length := by
  obtain ⟨w, _, split⟩ := exists_trimLeft_eq s
  have shorter : (trimLeft s).length ≤ s.length := (List.dropWhile_sublist isBlank).length_le
  rw [split, List.length_append] at shorter
  omega

/-! ### Blanks around a text -/

theorem trimLeft_append_of_isBlankText (blank : isBlankText u = true) (s : List Char) :
    trimLeft (u ++ s) = trimLeft s :=
  List.dropWhile_append_of_pos (List.all_eq_true.mp blank)

theorem trimRight_append_of_isBlankText (blank : isBlankText w = true) (s : List Char) :
    trimRight (s ++ w) = trimRight s := by
  have behind : isBlankText w.reverse = true := by
    rw [isBlankText, List.all_reverse]
    exact blank
  have dropped := trimLeft_append_of_isBlankText behind s.reverse
  rw [trimLeft, trimLeft] at dropped
  rw [trimRight, trimRight, List.reverse_append, dropped]

/-- Trimming takes the blanks around a text without blanks and nothing else. -/
theorem trim_surrounded (left : isBlankText u = true) (right : isBlankText w = true)
    (visible : ∀ c ∈ s, isBlank c = false) : trim (u ++ s ++ w) = s := by
  have own := trim_eq_self visible
  rw [trim, trimLeft_eq_self visible] at own
  rw [trim, List.append_assoc, trimLeft_append_of_isBlankText left]
  cases s with
  | nil => exact (trim_eq_nil_iff w).mpr right
  | cons c s =>
    have first := trimLeft_cons_of_not_blank (visible c List.mem_cons_self) (s ++ w)
    rw [List.cons_append, first, ← List.cons_append, trimRight_append_of_isBlankText right, own]

/-- Behind visible characters trimming takes blanks from the end only. -/
theorem exists_trim_append (left : isBlankText u = true) (visible : ∀ c ∈ s, isBlank c = false)
    (ne : s ≠ []) (rest : List Char) :
    ∃ t, t <+: rest ∧ trim (u ++ (s ++ rest)) = s ++ t := by
  have front : trimLeft (u ++ (s ++ rest)) = s ++ rest := by
    rw [trimLeft_append_of_isBlankText left]
    cases s with
    | nil => exact absurd rfl ne
    | cons c s => exact trimLeft_cons_of_not_blank (visible c List.mem_cons_self) (s ++ rest)
  obtain ⟨w, blank, split⟩ := exists_trimLeft_eq (u ++ (s ++ rest))
  rw [front] at split
  rcases List.append_eq_append_iff.mp split with ⟨t, whole, behind⟩ | ⟨taken, cut, behind⟩
  · exact ⟨t, ⟨w, behind.symm⟩, whole⟩
  · -- no character of the visible text is among the blanks that were taken
    have none : taken = [] := by
      apply List.eq_nil_iff_forall_not_mem.mpr
      intro c member
      have inside : c ∈ s := by
        rw [cut]
        exact List.mem_append_right _ member
      have taken : isBlank c = true := by
        apply List.all_eq_true.mp blank c
        rw [behind]
        exact List.mem_append_left _ member
      rw [visible c inside] at taken
      cases taken
    subst none
    rw [List.append_nil] at cut
    exact ⟨[], List.nil_prefix, by rw [← cut, List.append_nil]⟩

end FormEngine.Text
