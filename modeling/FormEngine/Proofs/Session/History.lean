/-
  FormEngine/Proofs/Session/History.lean
  ======================================
  **What a session forgets.**

  A derived field that fails keeps its last value, so in general the values of a
  state depend on how it was reached.  Where nothing fails they do not: every
  derived value is then the outcome of its expression, and the values that the
  user entered determine all of them.
-/
import FormEngine.Proofs.Derived.Uniqueness
import FormEngine.Proofs.Expression.Safety
import FormEngine.Proofs.Session.Run

namespace FormEngine

namespace FormState

variable {settings : Settings} {s : Schema} {steps steps' : List SessionStep} {made made' : Nat}
  {state state' : FormState} {id : String}

/-- Without derived errors, only the values of fields that are not derived are kept. -/
theorem get?_eq_of_keeps (consistent : Consistent settings s steps made state)
    (consistent' : Consistent settings s steps' made' state') (clean : state.derivedErrors = [])
    (same : ∀ f ∈ s.fields, f.isDerived = false →
      state'.values.get? f.id = state.values.get? f.id)
    (kept : DerivedUpdate.Keeps ⟨state.values, state.derivedErrors⟩ s id) :
    state'.values.get? id = state.values.get? id ∧ ∀ f ∈ s.derivedFields, f.id ≠ id := by
  rcases kept with plain | failed
  · refine ⟨?_, plain⟩
    by_cases isField : id ∈ s.ids
    · obtain ⟨f, member, rfl⟩ := List.mem_map.mp isField
      refine same f member ?_
      by_contra derived
      rw [Bool.not_eq_false] at derived
      exact plain f (List.mem_filter.mpr ⟨member, derived⟩) rfl
    · -- an id of no field has no value in either state
      have absent : id ∉ state.values.names := by rwa [consistent.recomputed.names]
      have absent' : id ∉ state'.values.names := by rwa [consistent'.recomputed.names]
      rw [Record.get?_eq_none_of_not_mem absent, Record.get?_eq_none_of_not_mem absent']
  · rw [clean] at failed
    exact absurd rfl failed

/-- **Where nothing fails, a session has no memory.**  Two states that were reached by any steps
    and have the same objects in the fields that are not derived have the same values in all
    fields, but for the lists that the two last recomputations made, if one of them has no derived
    errors; then the other has none either. -/
theorem values_eq_of_reaches (reached : SessionReaches settings s steps made state)
    (reached' : SessionReaches settings s steps' made' state') (clean : state.derivedErrors = [])
    (same : ∀ f ∈ s.fields, f.isDerived = false →
      state'.values.get? f.id = state.values.get? f.id) :
    state'.values = state.values.mapValues (Value.retime made made') ∧
      state'.derivedErrors = [] := by
  have consistent := consistent_of_reaches reached
  have consistent' := consistent_of_reaches reached'
  have restarted : s.update settings state'.values made' =
      .ok { values := state.values.mapValues (Value.retime made made'),
            errors := state.derivedErrors } := by
    refine consistent.recomputed.update_eq consistent'.recomputed.names
      (fun id kept => (get?_eq_of_keeps consistent consistent' clean same kept).1) ?_
    -- the other recomputation kept the same objects, and made none of them
    intro id v kept found
    obtain ⟨agree, plain⟩ := get?_eq_of_keeps consistent consistent' clean same kept
    exact consistent'.recomputed.kept id v (Or.inl plain) (agree.trans found)
  have result := Except.ok.inj (consistent'.recomputed.again.symm.trans restarted)
  exact ⟨congrArg DerivedUpdate.values result, (congrArg DerivedUpdate.errors result).trans clean⟩

end FormState

/-! ### Two ways to one state -/

namespace Schema

/-- The number of characters of a phrase; a phrase that is a number has none. -/
def phraseLength : Derivation where
  parents := ["phrase"]
  logic := "phrase.length"

def sizeField : Field where
  id := "size"
  type := .number
  label := "Size"
  derivation? := some phraseLength

def passphrase : Schema where
  id := "passphrase"
  name := "Passphrase"
  fields := [{ id := "phrase", type := .text, label := "Phrase" }, sizeField]
  ids_nodup := by decide

theorem checkExpression_phraseLength :
    checkExpression {} (.text phraseLength.logic) =
      .ok (.member (.identifier "phrase") "length") := by
  refine checkExpression_eq_ok_iff.mpr ⟨"phrase.length", [⟨.ident, "phrase", 0⟩, ⟨.dot, ".", 6⟩,
    ⟨.ident, "length", 7⟩, Token.eof 13], ?_, ?_, by decide, rfl, by decide +kernel⟩
  · have visible : Text.isBlankText "phrase.length".toList = false := by decide
    have balanced : isBalanced "phrase.length" = true := by decide
    have length : "phrase.length".length = 13 := by decide
    rw [phraseLength, expressionText, visible, balanced, length]
    rfl
  · exact Except.eq_ok_of_toOption_eq_some (by decide +kernel)

theorem compute_phraseLength (v old : Value) (occasion : Occasion) :
    phraseLength.compute {} (passphrase.parentAliases phraseLength)
        [("phrase", v), ("size", old)] occasion =
      match evaluateExpression {} (.text phraseLength.logic) [("phrase", v)] occasion with
      | .ok w => .ok (.ok w)
      | .error (.error e) => .ok (.error (.expression e))
      | .error (.numeral e) => .error e := by
  have aliases : passphrase.parentAliases phraseLength = [("phrase", "phrase")] := by
    decide +kernel
  have visible : Text.isBlankText phraseLength.logic.toList = false := by decide
  have present : phraseLength.missingParents [("phrase", v), ("size", old)] = [] := rfl
  rw [Derivation.compute, present, aliases, visible]
  rfl

theorem update_passphrase {now : Nat} {v old : Value} {outcome : Except DerivedFault Value}
    (computed : phraseLength.compute {} (passphrase.parentAliases phraseLength)
      [("phrase", v), ("size", old)] ⟨now, "size"⟩ = .ok outcome) :
    passphrase.update {} [("phrase", v), ("size", old)] now =
      .ok (DerivedUpdate.settle ⟨[("phrase", v), ("size", old)], []⟩ "size" outcome) := by
  have order : passphrase.resolution {} = ⟨["size"], [], []⟩ := by cbv
  have member : sizeField ∈ passphrase.fields := by simp [passphrase]
  have derived : sizeField.derivation? = some phraseLength := rfl
  have step : passphrase.recompute {} now ⟨[("phrase", v), ("size", old)], []⟩ "size" =
      .ok (DerivedUpdate.settle ⟨[("phrase", v), ("size", old)], []⟩ "size" outcome) := by
    have settled := congrArg (Except.map (DerivedUpdate.settle
      ⟨[("phrase", v), ("size", old)], []⟩ "size")) computed
    exact (recompute_of_derived member derived).trans settled
  rw [update_eq_foldlM, passStart, order, List.foldlM_cons, List.foldl_nil, step]
  rfl

/-- A text has a length. -/
theorem update_passphrase_text (phrase : String) (old : Value) (now : Nat) :
    passphrase.update {} [("phrase", .text phrase), ("size", old)] now =
      .ok ⟨[("phrase", .text phrase), ("size", .int phrase.length)], []⟩ := by
  have evaluated : evaluateExpression {} (.text phraseLength.logic) [("phrase", .text phrase)]
      ⟨now, "size"⟩ = .ok (.int phrase.length) := by
    rw [evaluateExpression, checkExpression_phraseLength]
    rfl
  have computed := compute_phraseLength (.text phrase) old ⟨now, "size"⟩
  rw [evaluated] at computed
  exact update_passphrase computed

/-- A number has none, and the size keeps its value. -/
theorem update_passphrase_number (n : Number) (old : Value) (now : Nat) :
    passphrase.update {} [("phrase", .number n), ("size", old)] now =
      .ok ⟨[("phrase", .number n), ("size", old)],
        [("size", ⟨"size", .expression (.failed (.noProperty "length"))⟩)]⟩ := by
  have evaluated : evaluateExpression {} (.text phraseLength.logic) [("phrase", .number n)]
      ⟨now, "size"⟩ = .error (.error (.failed (.noProperty "length"))) := by
    rw [evaluateExpression, checkExpression_phraseLength]
    rfl
  have computed := compute_phraseLength (.number n) old ⟨now, "size"⟩
  rw [evaluated] at computed
  exact update_passphrase computed

theorem initialState_passphrase (now : Nat) :
    passphrase.initialState {} now =
      .ok { values := [("phrase", .text ""), ("size", .int 0)] } := by
  have updated := update_passphrase_text "" (.text "") now
  change (passphrase.update {} [("phrase", .text ""), ("size", .text "")] now >>= _) = _
  rw [updated]
  rfl

end Schema

namespace FormState

variable {steps : List SessionStep} {made now : Nat} {state : FormState} {id : String} {v : Value}
  {u : DerivedUpdate}

/-- The beginning of a session with the form. -/
theorem reaches_passphrase_start (now : Nat) :
    SessionReaches {} .passphrase [] now
      { values := [("phrase", .text ""), ("size", .int 0)] } :=
  .start (Record.lacksTime_of_identities_nil rfl now) (Schema.initialState_passphrase now)

theorem reaches_passphrase_set (reached : SessionReaches {} .passphrase steps made state)
    (isField : id ∈ Schema.passphrase.ids)
    (noObjects : (state.values.set id v).all (fun e => e.2.identities.isEmpty) = true)
    (updated : Schema.passphrase.update {} (state.values.set id v) now = .ok u) :
    SessionReaches {} .passphrase (steps ++ [.set id v]) now
      { values := u.values, touched := state.touched.set id true, isValid := true,
        derivedErrors := u.errors } := by
  -- the fields of the form have no rules
  have valid : Schema.passphrase.validate u.values = .ok [] := rfl
  exact reached.set (Record.lacksTime_of_identities_nil noObjects now)
    (change_of_update isField updated valid)

/-- One session sets the phrase.  The other first spoils it, overwrites the size, which is then
    kept, and sets the phrase in the end. -/
theorem values_eq_of_reaches_passphrase :
    ∃ first spoilt second : FormState,
      SessionReaches {} .passphrase [.set "phrase" (.text "abc")] 1 first ∧
      SessionReaches {} .passphrase [.set "phrase" (.int 5), .set "size" (.int 99)] 4 spoilt ∧
      SessionReaches {} .passphrase [.set "phrase" (.int 5), .set "size" (.int 99), .touchAll,
        .set "phrase" (.text "abc")] 5 second ∧
      first.derivedErrors = [] ∧ spoilt.values.get? "size" = some (.int 99) ∧
      second.values = first.values.mapValues (Value.retime 1 5) ∧ second.derivedErrors = [] := by
  have isPhrase : "phrase" ∈ Schema.passphrase.ids := by decide
  have isSize : "size" ∈ Schema.passphrase.ids := by decide
  have direct := reaches_passphrase_set (reaches_passphrase_start 0) isPhrase rfl
    (Schema.update_passphrase_text "abc" (.int 0) 1)
  have spoils := reaches_passphrase_set (reaches_passphrase_start 2) isPhrase rfl
    (Schema.update_passphrase_number 5 (.int 0) 3)
  have overwrites := reaches_passphrase_set spoils isSize rfl
    (Schema.update_passphrase_number 5 (.int 99) 4)
  have repairs := reaches_passphrase_set overwrites.touchAll isPhrase rfl
    (Schema.update_passphrase_text "abc" (.int 99) 5)
  have onlyPhrase : ∀ f ∈ Schema.passphrase.fields, f.isDerived = false → f.id = "phrase" := by
    intro f member plain
    simp only [Schema.passphrase, List.mem_cons, List.not_mem_nil, or_false] at member
    rcases member with rfl | rfl
    · rfl
    · cases plain
  obtain ⟨values, clean⟩ := values_eq_of_reaches direct repairs rfl (by
    intro f member plain
    rw [onlyPhrase f member plain])
  exact ⟨_, _, _, direct, overwrites, repairs, rfl, rfl, values, clean⟩

end FormState

end FormEngine
