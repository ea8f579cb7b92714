/-
  FormEngine/Proofs/Expression/Spans.lean
  =======================================
  **Tokens are written in the text.**

  Every token but a string literal has as its text a stretch of the source
  (`isInfix_tokensFrom`); the content of a string literal may differ from what is
  written, because escapes are replaced.
-/
import FormEngine.Proofs.Expression.Lexing
import Mathlib.Data.List.Infix

namespace FormEngine.Lexer

variable {c : Char} {s : List Char} {position : Nat} {l : Lexeme}

/-! ### Single lexemes -/

theorem isPrefix_number (h : number s position = .ok l) : l.text.toList <+: s := by
  obtain ⟨literal, rest, scanned, rfl, _⟩ := number_eq_ok h
  rw [String.toList_ofList]
  exact ⟨rest, DecimalLiteral.scan_append scanned⟩

theorem isPrefix_word (s : List Char) : (word s).text.toList <+: s := by
  rw [word, String.toList_ofList]
  exact List.takeWhile_prefix _

theorem isPrefix_operator? (h : operator? s = some l) : l.text.toList <+: s := by
  obtain ⟨o, found, rfl⟩ := Option.map_eq_some_iff.mp h
  have isPrefix : o.1.toList.isPrefixOf s = true :=
    List.find?_some (p := fun o : String × TokenKind => o.1.toList.isPrefixOf s) found
  exact List.isPrefixOf_iff_prefix.mp isPrefix

/-- Whatever is no string literal is written at the front of the text. -/
theorem isPrefix_lexeme (h : lexeme c s position = .ok l) (plain : l.kind ≠ .string) :
    l.text.toList <+: c :: s := by
  rcases lexeme_cases h with ⟨_, _, _, _, rfl⟩ | isNumber | ⟨_, rfl⟩ | isOperator
  · exact absurd rfl plain
  · exact isPrefix_number isNumber
  · exact isPrefix_word (c :: s)
  · exact isPrefix_operator? isOperator

/-- Whatever is no string literal takes as many characters as it is written with, and at least
    one. -/
theorem length_lexeme (h : lexeme c s position = .ok l) (plain : l.kind ≠ .string) :
    l.length = l.text.toList.length ∧ l.text.toList ≠ [] := by
  rcases lexeme_cases h with ⟨_, _, _, _, rfl⟩ | isNumber | ⟨starts, rfl⟩ | isOperator
  · exact absurd rfl plain
  · obtain ⟨literal, rest, scanned, rfl, _⟩ := number_eq_ok isNumber
    rw [String.toList_ofList]
    exact ⟨rfl, (DecimalLiteral.isWritten_of_scan scanned).chars_ne_nil⟩
  · have part : isWordPart c = true := by rw [isWordPart, starts, Bool.true_or]
    simp [word, part]
  · obtain ⟨o, found, rfl⟩ := Option.map_eq_some_iff.mp isOperator
    have written : ∀ o ∈ operators, o.1.toList ≠ [] := by decide
    exact ⟨rfl, written o (List.mem_of_find?_eq_some found)⟩

/-- What is no string literal, and the text behind it. -/
theorem text_append_drop (h : lexeme c s position = .ok l) (plain : l.kind ≠ .string) :
    l.text.toList ++ s.drop (l.length - 1) = c :: s := by
  obtain ⟨rest, split⟩ := isPrefix_lexeme h plain
  obtain ⟨length, ne⟩ := length_lexeme h plain
  obtain ⟨d, w, written⟩ := List.exists_cons_of_ne_nil ne
  rw [written, List.cons_append] at split
  obtain ⟨rfl, rfl⟩ := List.cons.inj split
  rw [length, written]
  simp

/-! ### Whole texts -/

/-- Every token that is no string literal is a stretch of the text. -/
theorem isInfix_tokensFrom {ts : List Token} (h : tokensFrom s position = .ok ts) :
    ∀ t ∈ ts, t.kind ≠ .string → t.text.toList <:+: s := by
  replace h := lexes_of_tokensFrom h
  induction h with
  | ended position =>
    intro t member _
    rw [List.mem_singleton.mp member]
    exact List.nil_infix
  | @blank c s _ _ _ _ ih =>
    intro t member plain
    exact (ih t member plain).trans (List.suffix_cons c s).isInfix
  | @lexeme c s _ l _ _ found _ ih =>
    intro t member plain
    rcases List.mem_cons.mp member with rfl | member
    · exact (isPrefix_lexeme found plain).isInfix
    · have within : t.text.toList <:+: s.drop (l.length - 1) := ih t member plain
      exact (within.trans (List.drop_suffix _ s).isInfix).trans (List.suffix_cons c s).isInfix

end FormEngine.Lexer
