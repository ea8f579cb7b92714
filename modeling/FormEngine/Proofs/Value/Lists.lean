/-
  FormEngine/Proofs/Value/Lists.lean
  ==================================
  **The number of a list is the number of its text**, but for the list of null.

  Arithmetic takes the number of a list at once; comparisons and sums go through its
  text.  The text of several elements holds a comma, so neither way gives a number
  (`ofText_of_mem_comma`), and the text of one element is the text of the list,
  unless the element is null: a list shows null as nothing, but as a value by itself
  it reads `null` (`toNumber_eq_ofText_iff`).
-/
import FormEngine.Proofs.Number.Reading
import FormEngine.Proofs.Text.Blanks
import FormEngine.Proofs.Value.Equality

namespace FormEngine

/-! ### Texts with a comma -/

namespace Number

open DecimalLiteral

theorem isSome_of_mem_mapM {α β : Type} {f : α → Option β} {l : List α} {bs : List β}
    (h : l.mapM f = some bs) {a : α} (member : a ∈ l) : (f a).isSome = true := by
  induction l generalizing bs with
  | nil => cases member
  | cons b l ih =>
    simp only [List.mapM_cons, Option.bind_eq_bind, Option.bind_eq_some_iff] at h
    obtain ⟨first, found, others, rest, _⟩ := h
    rcases List.mem_cons.mp member with rfl | inside
    · rw [found]
      rfl
    · exact ih rest inside

/-- A hexadecimal numeral holds no comma. -/
theorem hexDigits?_of_mem_comma {s : List Char} (comma : ',' ∈ s) : hexDigits? s = none := by
  unfold hexDigits?
  split
  · next x digits =>
    split
    · next isNumeral =>
      obtain ⟨mark, _⟩ := isNumeral
      have inside : ',' ∈ digits := by
        rcases mark with rfl | rfl <;> simpa using comma
      cases read : digits.mapM (fun c => Text.baseDigit? 16 c.toLower) with
      | none => rfl
      | some ds =>
        have digit := isSome_of_mem_mapM read inside
        exact absurd digit (by decide)
    · rfl
  · rfl

/-- A text with a comma is no number. -/
theorem ofTrimmed_of_mem_comma {s : List Char} (comma : ',' ∈ s) : ofTrimmed s = .ok nan := by
  have visible : ¬s.isEmpty = true := by
    intro empty
    rw [List.isEmpty_iff.mp empty] at comma
    cases comma
  have inside : ',' ∈ (spanSign s).2 := by
    rw [← spanSign_append s] at comma
    rcases List.mem_append.mp comma with inSign | inRest
    · rcases sign_spanSign s with sign | sign | sign <;> simp [sign] at inSign
    · exact inRest
  have noLiteral : ofText? (spanSign s).2 = none := by
    cases found : ofText? (spanSign s).2 with
    | none => rfl
    | some l =>
      obtain ⟨written, chars⟩ := isWritten_of_ofText? found
      rw [← chars] at inside
      have isPart := written.mem_chars inside
      exact absurd isPart (by decide)
  have notInfinity : (spanSign s).2 ≠ "Infinity".toList := by
    intro same
    rw [same] at inside
    exact absurd inside (by decide)
  rw [ofTrimmed, if_neg visible]
  dsimp only
  rw [noLiteral, hexDigits?_of_mem_comma comma]
  simp only [if_neg notInfinity]
  rfl

theorem ofText_of_mem_comma {s : String} (comma : ',' ∈ s.toList) : ofText s = .ok nan :=
  ofTrimmed_of_mem_comma (Text.mem_trim comma (by decide))

end Number

namespace Value

variable {v : Value} {items : List Value} {s : String}

/-! ### Lists -/

theorem mem_intercalate_comma (first second : String) (rest : List String) :
    ',' ∈ (String.intercalate "," (first :: second :: rest)).toList := by
  simp [String.intercalate_cons_cons]

theorem toText_of_items? (listed : v.items? = some items) :
    v.toText = (do return String.intercalate "," (← itemTexts items)) := by
  cases v with
  | list i _ | tuple i _ =>
    cases listed
    rw [toText]
  | _ => cases listed

theorem isContainer_of_items? (listed : v.items? = some items) : v.isContainer = true := by
  cases v with
  | list | tuple => rfl
  | _ => cases listed

theorem toNumber_of_items? (listed : v.items? = some items) :
    v.toNumber = match items with
      | [] => .ok 0
      | [item] => (do Number.ofText (← item.toText))
      | _ => .ok Number.nan := by
  cases v with
  | list i _ | tuple i _ =>
    cases listed
    rcases items with _ | ⟨item, _ | ⟨second, rest⟩⟩ <;> rfl
  | _ => cases listed

theorem length_of_itemTexts {texts : List String} (h : itemTexts items = .ok texts) :
    texts.length = items.length := by
  induction items generalizing texts with
  | nil =>
    cases h
    rfl
  | cons item rest ih =>
    by_cases null : item = .null
    · subst null
      obtain ⟨others, found, same⟩ := Except.bind_eq_ok_iff.mp h
      cases same
      exact congrArg Nat.succ (ih found)
    · rw [itemTexts] at h
      · obtain ⟨shown, _, h⟩ := Except.bind_eq_ok_iff.mp h
        obtain ⟨others, found, same⟩ := Except.bind_eq_ok_iff.mp h
        cases same
        exact congrArg Nat.succ (ih found)
      · exact null

/-- The number of one element that is not null is that of its text. -/
theorem toNumber_singleton {item : Value} (listed : v.items? = some [item]) (present : item ≠ .null)
    (written : v.toText = .ok s) : v.toNumber = Number.ofText s := by
  rw [toText_of_items? listed] at written
  obtain ⟨texts, found, same⟩ := Except.bind_eq_ok_iff.mp written
  cases same
  rw [itemTexts] at found
  · obtain ⟨t, shown, found⟩ := Except.bind_eq_ok_iff.mp found
    cases found
    rw [toNumber_of_items? listed, String.intercalate_singleton]
    dsimp only
    rw [shown]
    rfl
  · exact present

/-- Several elements are no number, whichever way they are read. -/
theorem toNumber_several {first second : Value} {rest : List Value}
    (listed : v.items? = some (first :: second :: rest)) (written : v.toText = .ok s) :
    v.toNumber = .ok Number.nan ∧ Number.ofText s = .ok Number.nan := by
  rw [toText_of_items? listed] at written
  obtain ⟨texts, found, same⟩ := Except.bind_eq_ok_iff.mp written
  cases same
  refine ⟨toNumber_of_items? listed, ?_⟩
  have length := length_of_itemTexts found
  match texts, length with
  | s :: t :: others, _ => exact Number.ofText_of_mem_comma (mem_intercalate_comma s t others)

/-- **The number of a list is the number of its text, unless its only element is null.**  The
    text is what a comparison or a sum works with.  The list of null has the blank text, which
    is zero, but its own number is NaN. -/
theorem toNumber_eq_ofText_iff (listed : v.items? = some items) (written : v.toText = .ok s) :
    v.toPrimitive = .ok (.text s) ∧
    (v.toNumber = Number.ofText s ↔ items ≠ [.null]) ∧
    (items = [.null] → v.toNumber = .ok Number.nan ∧ Number.ofText s = .ok 0) := by
  have primitive : v.toPrimitive = .ok (.text s) := by
    rw [toPrimitive_of_isContainer (isContainer_of_items? listed), written]
    rfl
  have ofNull : items = [.null] → v.toNumber = .ok Number.nan ∧ Number.ofText s = .ok 0 := by
    rintro rfl
    rw [toText_of_items? listed] at written
    cases written
    exact ⟨toNumber_of_items? listed, rfl⟩
  refine ⟨primitive, ⟨?_, ?_⟩, ofNull⟩
  · intro same null
    obtain ⟨own, ofText⟩ := ofNull null
    rw [own, ofText] at same
    cases same
  · intro notNull
    match items, listed with
    | [], listed =>
      rw [toText_of_items? listed] at written
      cases written
      exact toNumber_of_items? listed
    | [item], listed =>
      refine toNumber_singleton listed ?_ written
      rintro rfl
      exact notNull rfl
    | first :: second :: rest, listed =>
      obtain ⟨own, ofText⟩ := toNumber_several listed written
      rw [own, ofText]

/-- Null inside of two lists reads as nothing on both ways. -/
theorem toNumber_eq_ofText_iff_nested :
    ∃ v s, v = Value.tuple (.read 0 0) [.list (.read 0 1) [.list (.read 0 2) [.null]]] ∧
      v.toText = .ok s ∧ v.toNumber = Number.ofText s := by
  have written : (Value.tuple (.read 0 0) [.list (.read 0 1) [.list (.read 0 2) [.null]]]).toText =
      .ok "" := rfl
  obtain ⟨_, agree, _⟩ := toNumber_eq_ofText_iff rfl written
  refine ⟨_, _, rfl, written, agree.mpr ?_⟩
  intro same
  cases same

/-- The list of null is NaN, its text is blank and so zero. -/
theorem toNumber_ne_ofText_of_listedNull :
    (Value.list (.read 0 0) [.null]).toText = .ok "" ∧
      (Value.list (.read 0 0) [.null]).toNumber = .ok Number.nan ∧ Number.ofText "" = .ok 0 :=
  ⟨rfl, rfl, rfl⟩

end Value

end FormEngine
