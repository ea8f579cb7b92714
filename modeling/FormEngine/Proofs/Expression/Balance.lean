/-
  FormEngine/Proofs/Expression/Balance.lean
  =========================================
  **The scan for balanced brackets agrees with the tokens.**

  The scan looks at single characters and keeps its own account of quotations and
  escapes; the lexer decides where a string literal ends before it goes on.  They
  are compared lexeme by lexeme (`Scans`): a string literal takes the scan into a
  quotation and out of it again without touching the brackets that are due
  (`run_stringBody`), and every other lexeme shows it the bracket that its token is,
  or nothing.  Template quotes are the exception, since they open a quotation for
  the scan and are single tokens for the lexer; no expression has them.

  So the scan refuses no text that the parser accepts, and neither does the check
  for blank texts.
-/
import FormEngine.Proofs.Expression.Brackets
import FormEngine.Proofs.Expression.Safety

namespace FormEngine

/-! ### Single characters -/

def BracketShape.closer : BracketShape → Char
  | .round => ')'
  | .square => ']'

def Bracket.char : Bracket → Char
  | .opening .round => '('
  | .opening .square => '['
  | .closing shape => shape.closer

/-- The bracket that a character is, if it is one. -/
def Bracket.ofChar? (c : Char) : Option Bracket :=
  [.opening .round, .opening .square, .closing .round, .closing .square].find?
    (fun b => decide (b.char = c))

theorem Bracket.char_of_ofChar? {c : Char} {b : Bracket} (h : ofChar? c = some b) :
    b.char = c := by
  simpa using List.find?_some h

/-- The characters that open a quotation for the scan. -/
def quotes : List Char := ['\x27', '\x22', '\x60']

/-- The characters that the scan looks at outside quotations. -/
def marks : List Char := quotes ++ ['(', '[', ')', ']']

theorem not_mem_marks {class_ : Char → Bool} {c : Char}
    (apart : marks.all (fun m => !class_ m) = true) (h : class_ c = true) : c ∉ marks := by
  intro member
  have outside := List.all_eq_true.mp apart c member
  rw [h] at outside
  cases outside

theorem ofChar?_eq_none_iff {c : Char} (notQuote : c ∉ quotes) :
    Bracket.ofChar? c = none ↔ c ∉ marks := by
  constructor
  · intro none member
    have brackets : ['(', '[', ')', ']'].all (fun d => (Bracket.ofChar? d).isSome) = true := by
      decide
    rcases List.mem_append.mp member with isQuote | isBracket
    · exact notQuote isQuote
    · have found := List.all_eq_true.mp brackets c isBracket
      rw [none] at found
      cases found
  · intro plain
    cases found : Bracket.ofChar? c with
    | none => rfl
    | some b =>
      rw [← Bracket.char_of_ofChar? found] at plain
      refine absurd ?_ plain
      cases b with
      | opening shape => cases shape <;> decide
      | closing shape => cases shape <;> decide

namespace BalanceState

/-- The scan stands outside quotations, and brackets of these shapes are due to be closed. -/
def outside (due : List BracketShape) : BalanceState :=
  ⟨none, false, due.map BracketShape.closer⟩

variable {c : Char} {s w : List Char} {due : List BracketShape} {bs : List Bracket}

theorem step_outside_of_not_mem_marks (plain : c ∉ marks) :
    (outside due).step c = some (outside due) := by
  simp only [marks, quotes, List.cons_append, List.nil_append, List.mem_cons, List.not_mem_nil,
    or_false, not_or] at plain
  simp [step, outside, plain]

theorem step_outside_opening (shape : BracketShape) :
    (outside due).step (Bracket.opening shape).char = some (outside (shape :: due)) := by
  cases shape <;> rfl

theorem step_outside_closing (shape : BracketShape) :
    (outside due).step (Bracket.closing shape).char =
      match due with
      | [] => none
      | first :: rest => if first = shape then some (outside rest) else none := by
  cases due with
  | nil => cases shape <;> rfl
  | cons first rest => cases first <;> cases shape <;> rfl

theorem run_cons {state : BalanceState} :
    state.run (c :: s) = match state.step c with
      | some next => next.run s
      | none => false := rfl

/-! ### Stretches of text -/

/-- The scan of the text closes what is due exactly if the brackets do. -/
def Scans (s : List Char) (bs : List Bracket) : Prop :=
  ∀ due, (outside due).run s = true ↔ Bracket.Closes due bs

theorem scans_nil : Scans [] [] := by
  intro due
  rw [Bracket.closes_nil]
  cases due <;> simp [outside, run]

theorem Scans.cons (h : Scans s bs) (plain : c ∉ marks) : Scans (c :: s) bs := by
  intro due
  rw [run_cons, step_outside_of_not_mem_marks plain]
  exact h due

/-- A text without marks leaves what is due as it is. -/
theorem scans_of_not_mem_marks (plain : ∀ c ∈ s, c ∉ marks) : Scans s [] := by
  induction s with
  | nil => exact scans_nil
  | cons c s ih =>
    apply Scans.cons
    · exact ih (fun d member => plain d (List.mem_cons_of_mem c member))
    · exact plain c List.mem_cons_self

theorem Scans.cons_bracket (h : Scans s bs) (b : Bracket) : Scans (b.char :: s) (b :: bs) := by
  intro due
  cases b with
  | opening shape =>
    rw [run_cons, step_outside_opening, Bracket.closes_opening]
    exact h (shape :: due)
  | closing shape =>
    rw [run_cons, step_outside_closing, Bracket.closes_closing]
    cases due with
    | nil => simp
    | cons first rest =>
      by_cases same : first = shape
      · subst same
        simpa using h rest
      · simp [same]

/-- Outside quotations the scan reads the brackets of a stretch without quotes. -/
theorem Scans.append (h : Scans s bs) (plain : ∀ c ∈ w, c ∉ quotes) :
    Scans (w ++ s) (w.filterMap Bracket.ofChar? ++ bs) := by
  induction w with
  | nil => exact h
  | cons c w ih =>
    have rest := ih (fun d member => plain d (List.mem_cons_of_mem c member))
    cases found : Bracket.ofChar? c with
    | none =>
      rw [List.filterMap_cons_none found]
      exact rest.cons ((ofChar?_eq_none_iff (plain c List.mem_cons_self)).mp found)
    | some b =>
      rw [List.filterMap_cons_some found, ← Bracket.char_of_ofChar? found]
      exact rest.cons_bracket b

/-! ### Lexemes -/

/-- A string literal takes the scan out of the quotation again, with what is due as it was. -/
theorem run_stringBody {quote : Char} {start position length : Nat} {content : List Char}
    {due : List Char} (h : Lexer.stringBody quote start s position = .ok (content, length)) :
    run ⟨some quote, false, due⟩ s = run ⟨none, false, due⟩ (s.drop length) := by
  replace h := Lexer.quoted_of_stringBody h
  induction h with
  | closed visible s =>
    rw [run_cons]
    simp [step, visible]
  | escaped _ _ ih => exact ih -- the character after a backslash is passed over by both
  | plain notEscape notQuote _ _ ih =>
    rw [run_cons]
    simp [step, notEscape, notQuote, ih]

theorem Scans.string {quote : Char} {start position length : Nat} {content : List Char}
    (h : Scans (s.drop length) bs) (isQuote : quote = '\x22' ∨ quote = '\x27')
    (read : Lexer.stringBody quote start s position = .ok (content, length)) :
    Scans (quote :: s) bs := by
  intro due
  have opens : (outside due).step quote =
      some ⟨some quote, false, due.map BracketShape.closer⟩ := by
    rcases isQuote with rfl | rfl <;> rfl
  rw [run_cons, opens]
  dsimp only
  rw [run_stringBody read]
  exact h due

end BalanceState

namespace Lexer

open BalanceState

variable {c : Char} {s : List Char} {position : Nat} {l : Lexeme} {bs : List Bracket}

/-- The text of a lexeme has no quotes, and no brackets but the one that its token is. -/
def Lexeme.ShowsBracket (l : Lexeme) : Prop :=
  (∀ c ∈ l.text.toList, c ∉ quotes) ∧
    l.text.toList.filterMap Bracket.ofChar? = l.kind.bracket?.toList

theorem showsBracket_of_not_mem_marks (plain : ∀ c ∈ l.text.toList, c ∉ marks)
    (noBracket : l.kind.bracket? = none) : l.ShowsBracket := by
  have noQuote : ∀ c ∈ l.text.toList, c ∉ quotes :=
    fun c member isQuote => plain c member (List.mem_append_left _ isQuote)
  refine ⟨noQuote, ?_⟩
  rw [noBracket, Option.toList_none, List.filterMap_eq_nil_iff]
  intro c member
  exact (ofChar?_eq_none_iff (noQuote c member)).mpr (plain c member)

theorem showsBracket_number (h : number s position = .ok l) : l.ShowsBracket := by
  apply showsBracket_of_not_mem_marks
  · obtain ⟨literal, rest, scanned, rfl, _⟩ := number_eq_ok h
    intro c member
    rw [String.toList_ofList] at member
    rcases (DecimalLiteral.isWritten_of_scan scanned).mem_chars member with digit | other
    · exact not_mem_marks (by decide) digit
    · exact not_mem_marks (by decide) (List.contains_iff_mem.mpr other)
  · rcases (kind_number h).1 with kind | kind <;> rw [kind] <;> rfl

theorem showsBracket_word (s : List Char) : (word s).ShowsBracket := by
  apply showsBracket_of_not_mem_marks
  · intro c member
    rw [word, String.toList_ofList] at member
    have part : isWordPart c = true := List.all_eq_true.mp List.all_takeWhile c member
    exact not_mem_marks (by decide) part
  · have words : ∀ kind ∈ TokenKind.ident :: keywords.map Prod.snd, kind.bracket? = none := by
      decide
    exact words _ (kind_word s)

theorem showsBracket_operator? (h : operator? s = some l) (notTemplate : l.kind ≠ .backtick) :
    l.ShowsBracket := by
  obtain ⟨o, found, rfl⟩ := Option.map_eq_some_iff.mp h
  have table : ∀ o ∈ operators, o.2 ≠ .backtick →
      o.1.toList.all (fun c => decide (c ∉ quotes)) = true ∧
        o.1.toList.filterMap Bracket.ofChar? = o.2.bracket?.toList := by decide
  obtain ⟨noQuote, bracket⟩ := table o (List.mem_of_find?_eq_some found) notTemplate
  refine ⟨?_, bracket⟩
  intro c member
  exact of_decide_eq_true (List.all_eq_true.mp noQuote c member)

theorem scans_lexeme (h : lexeme c s position = .ok l) (notTemplate : l.kind ≠ .backtick)
    (rest : Scans (s.drop (l.length - 1)) bs) :
    Scans (c :: s) (l.kind.bracket?.toList ++ bs) := by
  have written : l.kind ≠ .string → l.ShowsBracket →
      Scans (c :: s) (l.kind.bracket?.toList ++ bs) := by
    rintro plain ⟨noQuote, bracket⟩
    have scans := rest.append noQuote
    rwa [bracket, text_append_drop h plain] at scans
  rcases lexeme_cases h with ⟨content, length, read, isQuote, rfl⟩ | isNumber | ⟨_, rfl⟩ | isOperator
  · exact rest.string isQuote read
  · refine written ?_ (showsBracket_number isNumber)
    rcases (kind_number isNumber).1 with kind | kind <;> rw [kind] <;> decide
  · refine written ?_ (showsBracket_word _)
    exact ne_of_mem_of_not_mem (kind_word (c :: s)) (by decide)
  · refine written ?_ (showsBracket_operator? isOperator notTemplate)
    exact ne_of_mem_of_not_mem (kind_operator? isOperator) (by decide)

/-- The scan of a text meets the brackets among its tokens, as long as no template opens. -/
theorem scans_tokensFrom {ts : List Token} (h : tokensFrom s position = .ok ts)
    (noTemplate : ∀ t ∈ ts, t.kind ≠ .backtick) : Scans s (brackets ts) := by
  replace h := lexes_of_tokensFrom h
  induction h with
  | ended position => exact scans_nil
  | blank isBlank _ ih => exact (ih noTemplate).cons (not_mem_marks (by decide) isBlank)
  | lexeme _ found _ ih =>
    obtain ⟨first, others⟩ := List.forall_mem_cons.mp noTemplate
    rw [brackets_cons]
    exact scans_lexeme found first (ih others)

end Lexer

/-! ### Whole texts -/

/-- **The scan and the tokens agree on nesting**: without template quotes, a text is balanced
    exactly if its bracket tokens are nested. -/
theorem isBalanced_iff_nests_brackets {text : String} {ts : List Token}
    (tokenized : tokenize text = .ok ts) (noTemplate : ∀ t ∈ ts, t.kind ≠ .backtick) :
    isBalanced text = true ↔ Bracket.Nests (brackets ts) :=
  Lexer.scans_tokensFrom tokenized noTemplate []

/-- String literals hide brackets, quotes of either kind, template quotes, backslashes and line
    ends from both. -/
theorem isBalanced_iff_nests_brackets_quoted :
    ∃ ts, tokenize "(\"[\\\"\x60\", ['\\\\', '\\\n)'])" = .ok ts ∧
      (∀ t ∈ ts, t.kind ≠ .backtick) ∧
      isBalanced "(\"[\\\"\x60\", ['\\\\', '\\\n)'])" = true ∧ Bracket.Nests (brackets ts) := by
  have tokenized : tokenize "(\"[\\\"\x60\", ['\\\\', '\\\n)'])" = .ok [⟨.lparen, "(", 0⟩,
      ⟨.string, "[\"\x60", 1⟩, ⟨.comma, ",", 7⟩, ⟨.lbracket, "[", 9⟩, ⟨.string, "\\", 10⟩,
      ⟨.comma, ",", 14⟩, ⟨.string, "\n)", 16⟩, ⟨.rbracket, "]", 21⟩, ⟨.rparen, ")", 22⟩,
      Token.eof 23] :=
    Except.eq_ok_of_toOption_eq_some (by decide +kernel)
  have noTemplate : ∀ t ∈ [⟨.lparen, "(", 0⟩, ⟨.string, "[\"\x60", 1⟩, ⟨.comma, ",", 7⟩,
      ⟨.lbracket, "[", 9⟩, ⟨.string, "\\", 10⟩, ⟨.comma, ",", 14⟩, ⟨.string, "\n)", 16⟩,
      ⟨.rbracket, "]", 21⟩, ⟨.rparen, ")", 22⟩, Token.eof 23], t.kind ≠ .backtick := by decide
  have balanced : isBalanced "(\"[\\\"\x60\", ['\\\\', '\\\n)'])" = true := by decide
  exact ⟨_, tokenized, noTemplate, balanced,
    (isBalanced_iff_nests_brackets tokenized noTemplate).mp balanced⟩

section Parsed

variable {source : String} {ts : List Token} {e : Expr}

theorem isBlankText_eq_false_of_parseTokens (tokenized : tokenize source = .ok ts)
    (parsed : parseTokens ts = .ok e) : Text.isBlankText source.toList = false := by
  obtain ⟨body, last, n, rfl, _, phrase⟩ := exists_phrase_of_parseTokens tokenized parsed
  rw [Bool.eq_false_iff]
  intro blank
  obtain ⟨only, read⟩ : ∃ only, Lexer.tokensFrom source.toList 0 = .ok [Token.eof only] :=
    Lexer.tokensFrom_of_isBlankText blank
  rw [tokenize, read] at tokenized
  obtain ⟨t, us, rfl, _⟩ := phrase.begins
  simp at tokenized

theorem isBalanced_of_parseTokens (tokenized : tokenize source = .ok ts)
    (parsed : parseTokens ts = .ok e) : isBalanced source = true := by
  obtain ⟨body, last, n, rfl, _, phrase⟩ := exists_phrase_of_parseTokens tokenized parsed
  have noTemplate : ∀ t ∈ body ++ [Token.eof last], t.kind ≠ .backtick := by
    rw [List.forall_mem_append]
    constructor
    · exact fun t member => (phrase.isPart t member).kind_ne rfl (by decide)
    · intro t isLast isTemplate
      rw [List.mem_singleton.mp isLast] at isTemplate
      cases isTemplate
  have nested : Bracket.Nests (brackets (body ++ [Token.eof last])) := by
    simpa [Token.eof, TokenKind.bracket?] using phrase.nests
  exact (Lexer.scans_tokensFrom tokenized noTemplate []).mpr nested

end Parsed

/-- **The first checks refuse nothing that the later ones accept**: a text passes all checks
    exactly if it is short enough, it is parsed, and its tokens and its tree pass the screening.
    What is parsed is never blank and always balanced. -/
theorem checkExpression_text_eq_ok_iff (settings : Settings) (source : String) :
    (∀ e, checkExpression settings (.text source) = .ok e ↔
      source.length ≤ settings.maxExpressionLength ∧ parseExpr source = .ok e ∧
        (∃ ts, tokenize source = .ok ts ∧ Screening.screenTokens none ts = none) ∧
        Screening.screenExpr e = none) ∧
      ∀ e, parseExpr source = .ok e →
        Text.isBlankText source.toList = false ∧ isBalanced source = true := by
  constructor
  · intro e
    rw [checkExpression_eq_ok_iff]
    constructor
    · rintro ⟨text, ts, shape, tokenized, screened, parsed, passed⟩
      obtain ⟨same, within, _, _⟩ := expressionText_eq_ok_iff.mp shape
      cases same
      exact ⟨within, parseExpr_eq_ok_iff.mpr ⟨ts, tokenized, parsed⟩, ⟨ts, tokenized, screened⟩,
        passed⟩
    · rintro ⟨within, accepted, ⟨ts, tokenized, screened⟩, passed⟩
      obtain ⟨us, again, parsed⟩ := parseExpr_eq_ok_iff.mp accepted
      rw [tokenized] at again
      cases again
      have visible := isBlankText_eq_false_of_parseTokens tokenized parsed
      have balanced := isBalanced_of_parseTokens tokenized parsed
      exact ⟨source, ts, expressionText_eq_ok_iff.mpr ⟨rfl, within, visible, balanced⟩, tokenized,
        screened, parsed, passed⟩
  · intro e accepted
    obtain ⟨ts, tokenized, parsed⟩ := parseExpr_eq_ok_iff.mp accepted
    exact ⟨isBlankText_eq_false_of_parseTokens tokenized parsed,
      isBalanced_of_parseTokens tokenized parsed⟩

/-- Brackets and quotes inside of string literals count for none of the checks. -/
theorem checkExpression_text_eq_ok_iff_quoted :
    ∃ e, parseExpr "[x, ')'][1] + '(\\''" = .ok e ∧
      checkExpression {} (.text "[x, ')'][1] + '(\\''") = .ok e ∧
      Text.isBlankText "[x, ')'][1] + '(\\''".toList = false ∧
      isBalanced "[x, ')'][1] + '(\\''" = true := by
  have tokenized : tokenize "[x, ')'][1] + '(\\''" = .ok [⟨.lbracket, "[", 0⟩, ⟨.ident, "x", 1⟩,
      ⟨.comma, ",", 2⟩, ⟨.string, ")", 4⟩, ⟨.rbracket, "]", 7⟩, ⟨.lbracket, "[", 8⟩,
      ⟨.int, "1", 9⟩, ⟨.rbracket, "]", 10⟩, ⟨.plus, "+", 12⟩, ⟨.string, "('", 14⟩,
      Token.eof 19] :=
    Except.eq_ok_of_toOption_eq_some (by decide +kernel)
  have accepted : parseExpr "[x, ')'][1] + '(\\''" = .ok (.binary .add
      (.index (.array [.identifier "x", .literal (.text ")")]) (.literal (.number 1)))
      (.literal (.text "('"))) :=
    parseExpr_eq_ok_iff.mpr ⟨_, tokenized, rfl⟩
  have short : "[x, ')'][1] + '(\\''".length ≤ ({} : Settings).maxExpressionLength := by decide
  obtain ⟨passes, parsed⟩ := checkExpression_text_eq_ok_iff {} "[x, ')'][1] + '(\\''"
  refine ⟨_, accepted, (passes _).mpr ⟨short, accepted, ⟨_, tokenized, by decide⟩, ?_⟩,
    parsed _ accepted⟩
  decide +kernel

end FormEngine
