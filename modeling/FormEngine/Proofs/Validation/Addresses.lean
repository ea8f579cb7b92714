/-
  FormEngine/Proofs/Validation/Addresses.lean
  ===========================================
  **Which texts the rule for addresses accepts.**

  The rule matches a pattern: three runs of characters that are neither blank nor an
  at sign, with an at sign and a dot between them.  The runs may be cut at any dot, so
  a text can match in several ways.  What the pattern comes to is said here without
  cutting: no blank, a single at sign with something in front of it, and behind it a
  dot that has something on both sides (`IsAddressText`).

  Other dots do not matter: behind the at sign a text may begin with a dot, end with
  one, or have two in a row, as long as one dot stands inside.
-/
import FormEngine.Proofs.Text.Blanks
import FormEngine.Validation.Rule

namespace FormEngine

namespace Validation

variable {s name domain : List Char} {c : Char}

/-! ### The two sides of an address -/

/-- The text in front of the first at sign. -/
def localPart (s : List Char) : List Char := s.takeWhile (fun c => c != '@')

/-- The text behind the first at sign. -/
def domainPart (s : List Char) : List Char := (s.dropWhile (fun c => c != '@')).tail

/-- A dot stands in the text, neither first nor last. -/
def HasInnerDot (s : List Char) : Prop := ∃ i, 0 < i ∧ i + 1 < s.length ∧ s[i]? = some '.'

/-- The text is an address: it shows no blank and one at sign, something stands in front of
    the at sign, and a dot inside what stands behind it. -/
structure IsAddressText (s : List Char) : Prop where
  visible : ∀ c ∈ s, Text.isBlank c = false
  single : s.count '@' = 1
  named : localPart s ≠ []
  dotted : HasInnerDot (domainPart s)

theorem localPart_append (noSign : '@' ∉ name) (domain : List Char) :
    localPart (name ++ '@' :: domain) = name := by
  have all : ∀ c ∈ name, (c != '@') = true :=
    fun c member => bne_iff_ne.mpr (ne_of_mem_of_not_mem member noSign)
  rw [localPart, List.takeWhile_append_of_pos all, List.takeWhile_cons_of_neg (by decide),
    List.append_nil]

theorem domainPart_append (noSign : '@' ∉ name) (domain : List Char) :
    domainPart (name ++ '@' :: domain) = domain := by
  have all : ∀ c ∈ name, (c != '@') = true :=
    fun c member => bne_iff_ne.mpr (ne_of_mem_of_not_mem member noSign)
  rw [domainPart, List.dropWhile_append_of_pos all, List.dropWhile_cons_of_neg (by decide),
    List.tail_cons]

/-- A text with one at sign is cut by it into two parts without any. -/
theorem exists_eq_append_of_count (single : s.count '@' = 1) :
    ∃ name domain, s = name ++ '@' :: domain ∧ '@' ∉ name ∧ '@' ∉ domain := by
  have member : '@' ∈ s := List.count_pos_iff.mp (by omega)
  obtain ⟨name, domain, rfl, noSign⟩ := List.eq_append_cons_of_mem member
  refine ⟨name, domain, rfl, noSign, ?_⟩
  rw [List.count_append, List.count_cons_self, List.count_eq_zero_of_not_mem noSign] at single
  exact List.count_eq_zero.mp (by omega)

/-- An inner dot cuts a text into two parts that are not empty. -/
theorem hasInnerDot_iff :
    HasInnerDot s ↔ ∃ front back, s = front ++ '.' :: back ∧ front ≠ [] ∧ back ≠ [] := by
  constructor
  · rintro ⟨i, positive, within, dot⟩
    obtain ⟨bound, here⟩ := List.getElem?_eq_some_iff.mp dot
    refine ⟨s.take i, s.drop (i + 1), ?_, ?_, ?_⟩
    · rw [← here, ← List.drop_eq_getElem_cons bound, List.take_append_drop]
    · rw [← List.length_pos_iff, List.length_take]
      omega
    · rw [← List.length_pos_iff, List.length_drop]
      omega
  · rintro ⟨front, back, rfl, hasFront, hasBack⟩
    have before := List.length_pos_iff.mpr hasFront
    have behind := List.length_pos_iff.mpr hasBack
    refine ⟨front.length, before, ?_, ?_⟩
    · rw [List.length_append, List.length_cons]
      omega
    · rw [List.getElem?_append_right (Nat.le_refl _), Nat.sub_self, List.getElem?_cons_zero]

/-! ### The pattern -/

theorem isAddressChar_iff : isAddressChar c = true ↔ Text.isBlank c = false ∧ c ≠ '@' := by
  rw [isAddressChar, Bool.and_eq_true, Bool.not_eq_true', bne_iff_ne]

/-- The pattern asks for three runs with an at sign and a dot between them. -/
theorem isAddress_iff_runs : isAddress s = true ↔
    ∃ name front back, s = name ++ '@' :: (front ++ '.' :: back) ∧
      name ≠ [] ∧ front ≠ [] ∧ back ≠ [] ∧
      ∀ c ∈ name ++ front ++ back, Text.isBlank c = false ∧ c ≠ '@' := by
  simp only [isAddress, addressPattern, Text.matchesPattern_run, Text.matchesPattern_char,
    Text.matchesPattern_nil, isAddressChar_iff, List.forall_mem_append]
  constructor
  · rintro ⟨name, _, rfl, hasName, inName, _, rfl, front, _, rfl, hasFront, inFront, _, rfl,
      back, _, rfl, hasBack, inBack, rfl⟩
    refine ⟨name, front, back, ?_, hasName, hasFront, hasBack, ⟨inName, inFront⟩, inBack⟩
    rw [List.append_nil]
  · rintro ⟨name, front, back, rfl, hasName, hasFront, hasBack, ⟨inName, inFront⟩, inBack⟩
    exact ⟨name, _, rfl, hasName, inName, _, rfl, front, _, rfl, hasFront, inFront, _, rfl,
      back, [], (List.append_nil back).symm, hasBack, inBack, rfl⟩

/-- The pattern accepts the addresses and nothing else. -/
theorem isAddress_iff : isAddress s = true ↔ IsAddressText s := by
  rw [isAddress_iff_runs]
  constructor
  · rintro ⟨name, front, back, rfl, hasName, hasFront, hasBack, plain⟩
    simp only [List.forall_mem_append] at plain
    obtain ⟨⟨inName, inFront⟩, inBack⟩ := plain
    have noSign : '@' ∉ name := fun member => (inName _ member).2 rfl
    have noSign' : '@' ∉ front := fun member => (inFront _ member).2 rfl
    have noSign'' : '@' ∉ back := fun member => (inBack _ member).2 rfl
    refine ⟨?_, ?_, ?_, ?_⟩
    · simp only [List.forall_mem_append, List.forall_mem_cons]
      exact ⟨fun c member => (inName c member).1, by decide,
        fun c member => (inFront c member).1, by decide, fun c member => (inBack c member).1⟩
    · rw [List.count_append, List.count_cons_self, List.count_append,
        List.count_cons_of_ne (by decide), List.count_eq_zero_of_not_mem noSign,
        List.count_eq_zero_of_not_mem noSign', List.count_eq_zero_of_not_mem noSign'']
    · rw [localPart_append noSign]
      exact hasName
    · rw [domainPart_append noSign]
      exact hasInnerDot_iff.mpr ⟨front, back, rfl, hasFront, hasBack⟩
  · intro address
    obtain ⟨name, domain, rfl, noSign, noSign'⟩ := exists_eq_append_of_count address.single
    have hasName := address.named
    have dotted := address.dotted
    rw [localPart_append noSign] at hasName
    rw [domainPart_append noSign] at dotted
    obtain ⟨front, back, rfl, hasFront, hasBack⟩ := hasInnerDot_iff.mp dotted
    have visible := address.visible
    simp only [List.forall_mem_append, List.forall_mem_cons] at visible
    simp only [List.mem_append, List.mem_cons, not_or] at noSign'
    obtain ⟨inName, _, inFront, _, inBack⟩ := visible
    obtain ⟨noSignFront, _, noSignBack⟩ := noSign'
    refine ⟨name, front, back, rfl, hasName, hasFront, hasBack, ?_⟩
    simp only [List.forall_mem_append]
    exact ⟨⟨fun c member => ⟨inName c member, ne_of_mem_of_not_mem member noSign⟩,
      fun c member => ⟨inFront c member, ne_of_mem_of_not_mem member noSignFront⟩⟩,
      fun c member => ⟨inBack c member, ne_of_mem_of_not_mem member noSignBack⟩⟩

end Validation

/-! ### The rule -/

namespace Rule

open Validation

theorem fails_email_text {r : Rule} {s : String} (isEmail : r.ruleType? = some .email)
    (ne : s ≠ "") : r.fails (.text s) = .ok (!isAddress s.toList) := by
  have given : isUnset (.text s) = false := by
    rw [isUnset, String.isEmpty_eq_false_iff]
    exact ne
  rw [fails, isEmail]
  simp only [given, Bool.false_eq_true, if_false]
  rfl

/-- **The rule for addresses** passes a text that is not empty exactly if it is an address, and
    gives its message on every other. -/
theorem failure_email_text (r : Rule) (s : String) (isEmail : r.ruleType? = some .email)
    (ne : s ≠ "") :
    (r.failure? (.text s) = .ok none ↔ IsAddressText s.toList) ∧
    (r.failure? (.text s) = .ok (some r.message) ↔ ¬IsAddressText s.toList) := by
  rw [failure?_of_fails (fails_email_text isEmail ne), ← isAddress_iff]
  cases isAddress s.toList with
  | true => simp
  | false => simp

/-- Dots side by side and at the ends of the domain do no harm, as one stands inside. -/
theorem failure_email_text_dots :
    ({ type := "email", message := "m" } : Rule).ruleType? = some .email ∧ "a@.b..c." ≠ "" ∧
    IsAddressText "a@.b..c.".toList ∧
    ({ type := "email", message := "m" } : Rule).failure? (.text "a@.b..c.") = .ok none := by
  have address : IsAddressText "a@.b..c.".toList := isAddress_iff.mp (by decide)
  have isEmail : ({ type := "email", message := "m" } : Rule).ruleType? = some .email := by decide
  have ne : "a@.b..c." ≠ "" := by decide
  exact ⟨isEmail, ne, address, (failure_email_text _ _ isEmail ne).1.mpr address⟩

end Rule

end FormEngine
