/-
  FormEngine/Proofs/Expression/NormalResults.lean
  ===============================================
  **Every number that is computed is normal.**

  Numbers are made normal where they are computed, but several ways lead past that
  place: NaN and the infinities, a power of zero, a root of an infinity, the greatest
  of no numbers.  They all end in normal numbers, given normal operands, and conversion
  makes the operands normal (`isNormal_toNumber`).  So what the operators and the
  library return is normal, on all values (`isNormal_operators_library`), and since
  normal numbers that are equal are the same, it has one representation only.
-/
import FormEngine.Expression.Evaluation
import FormEngine.Proofs.Value.Normalising

namespace FormEngine

namespace Number

variable {x : Number}

/-! ### Operations on numbers -/

theorem isNormal_add (x y : Number) : (x.add y).IsNormal := by
  unfold add
  split
  · exact isNormal_normalise _
  · exact isNormal_normalise _

theorem isNormal_sub (x y : Number) : (x.sub y).IsNormal := by
  unfold sub
  split
  · exact isNormal_normalise _
  · exact isNormal_normalise _

theorem isNormal_mul (x y : Number) : (x.mul y).IsNormal := by
  unfold mul
  split
  · exact isNormal_normalise _
  · exact isNormal_normalise _

theorem isNormal_neg (x : Number) : x.neg.IsNormal := by
  cases x with
  | int n => exact isNormal_normalise (.int (-n))
  | float x => exact isNormal_normalise (.float x.neg)

theorem isNormal_abs (x : Number) : x.abs.IsNormal := by
  cases x with
  | int n => exact isNormal_normalise (.int n.natAbs)
  | float x => exact isNormal_normalise (.float x.abs)

theorem isNormal_pow (x y : Number) : (x.pow y).IsNormal := by
  unfold pow
  -- three answers are given before the power is computed and made normal
  split
  · exact isNormal_nan
  split
  · exact Nat.one_le_ofNat
  split
  · exact isNormal_infinity false
  · exact isNormal_normalise _

theorem IsNormal.sqrt (h : x.IsNormal) : x.sqrt.IsNormal := by
  unfold Number.sqrt
  split
  · exact isNormal_nan
  split
  · exact h
  · exact isNormal_normalise _

theorem IsNormal.roundedBy (h : x.IsNormal) (f : Rat → Int) : (x.roundedBy f).IsNormal := by
  unfold Number.roundedBy
  split
  · exact isNormal_normalise _
  · exact h

theorem IsNormal.round (h : x.IsNormal) : x.round.IsNormal := by
  unfold Number.round
  split
  · split
    · exact isNormal_normalise _
    · exact h
  · exact h

theorem isNormal_ofFront (s : String) : (ofFront s).IsNormal := by
  unfold ofFront
  dsimp only
  split
  · exact isNormal_infinity _
  · split
    · exact isNormal_normalise _
    · exact isNormal_nan

end Number

/-! ### Conversion -/

variable {v w : Value} {x : Number} {args : List Value}

/-- Conversion makes a number normal. -/
theorem Value.isNormal_toNumber (h : v.toNumber = .ok x) : x.IsNormal := by
  unfold toNumber at h
  split at h
  · cases h
    exact Nat.zero_le _
  · next b =>
    cases h
    cases b with
    | false => exact Nat.zero_le _
    | true => exact Nat.one_le_ofNat
  · cases h
    exact Number.isNormal_normalise _
  · exact Number.isNormal_ofText h
  · cases h
    exact Nat.zero_le _
  · cases h
    exact Nat.zero_le _
  · obtain ⟨_, _, read⟩ := Except.bind_eq_ok_iff.mp h
    exact Number.isNormal_ofText read
  · obtain ⟨_, _, read⟩ := Except.bind_eq_ok_iff.mp h
    exact Number.isNormal_ofText read
  · cases h
    exact Number.isNormal_nan

/-! ### The library -/

namespace Library

theorem isNormal_numberArgument {i : Nat} (h : numberArgument args i = .ok x) : x.IsNormal := by
  unfold numberArgument at h
  split at h
  · cases h
    exact Number.isNormal_nan
  · exact Value.isNormal_toNumber h

theorem isNormal_of_mem_numbers {xs : List Number} (h : numbers args = .ok xs) :
    ∀ x ∈ xs, x.IsNormal := by
  intro x member
  obtain ⟨v, _, converted⟩ := (Except.mem_iff_of_mapM_eq_ok h).mp member
  exact Value.isNormal_toNumber converted

theorem foldl_mem (before : Number → Number → Bool) (xs : List Number) (x : Number) :
    xs.foldl (fun best y => if before best y then y else best) x ∈ x :: xs := by
  induction xs generalizing x with
  | nil => exact List.mem_singleton_self x
  | cons y xs ih =>
    rw [List.foldl_cons]
    rcases List.mem_cons.mp (ih (if before x y then y else x)) with same | later
    · rw [same]
      split
      · exact List.mem_cons_of_mem _ List.mem_cons_self
      · exact List.mem_cons_self
    · exact List.mem_cons_of_mem _ (List.mem_cons_of_mem _ later)

theorem isNormal_extreme {before : Number → Number → Bool} {none_ : Number} {xs : List Number}
    (ofNone : none_.IsNormal) (ofAll : ∀ x ∈ xs, x.IsNormal) :
    (extreme before none_ xs).IsNormal := by
  unfold extreme
  split
  · exact Number.isNormal_nan
  split
  · exact ofNone
  · next first rest _ => exact ofAll _ (foldl_mem before rest first)

theorem isNormal_parseInt (h : parseInt args = .ok x) : x.IsNormal := by
  obtain ⟨s, _, h⟩ := Except.bind_eq_ok_iff.mp h
  generalize DecimalLiteral.spanSign (Text.trim s.toList) = signed at h
  obtain ⟨requested, _, h⟩ := Except.bind_eq_ok_iff.mp h
  obtain ⟨base, digits⟩ := baseAndText requested signed.2
  dsimp only at h
  split at h
  · cases h
    exact Number.isNormal_nan
  split at h
  · cases h
    exact Number.isNormal_nan
  · obtain ⟨_, _, h⟩ := Except.bind_eq_ok_iff.mp h
    cases h
    exact Number.isNormal_normalise _

theorem isNormal_of_numberArgument {f : Number → Number} {i : Nat}
    (keeps : ∀ y, y.IsNormal → (f y).IsNormal)
    (h : (do return Value.number (f (← numberArgument args i))) =
      (.ok (.number x) : Except NumeralError Value)) : x.IsNormal := by
  obtain ⟨y, converted, h⟩ := Except.bind_eq_ok_iff.mp h
  cases h
  exact keeps y (isNormal_numberArgument converted)

/-- A function of the library that returns a number returns a normal one. -/
theorem isNormal_apply {f : Builtin} (h : apply f args = .ok (.number x)) : x.IsNormal := by
  cases f with
  | abs => exact isNormal_of_numberArgument (fun y _ => y.isNormal_abs) h
  | ceil => exact isNormal_of_numberArgument (fun _ normal => normal.roundedBy Rat.ceil) h
  | floor => exact isNormal_of_numberArgument (fun _ normal => normal.roundedBy Rat.floor) h
  | round => exact isNormal_of_numberArgument (fun _ normal => normal.round) h
  | sqrt => exact isNormal_of_numberArgument (fun _ normal => normal.sqrt) h
  | max =>
    obtain ⟨xs, converted, h⟩ := Except.bind_eq_ok_iff.mp h
    cases h
    exact isNormal_extreme (Number.isNormal_infinity true) (isNormal_of_mem_numbers converted)
  | min =>
    obtain ⟨xs, converted, h⟩ := Except.bind_eq_ok_iff.mp h
    cases h
    exact isNormal_extreme (Number.isNormal_infinity false) (isNormal_of_mem_numbers converted)
  | pow =>
    obtain ⟨base, _, h⟩ := Except.bind_eq_ok_iff.mp h
    exact isNormal_of_numberArgument (fun y _ => base.isNormal_pow y) h
  | parseFloat =>
    obtain ⟨s, _, h⟩ := Except.bind_eq_ok_iff.mp h
    cases h
    exact Number.isNormal_ofFront s
  | parseInt =>
    obtain ⟨y, read, h⟩ := Except.bind_eq_ok_iff.mp h
    cases h
    exact isNormal_parseInt read
  | concat | toLowerCase | toUpperCase | trim | substring | isNaN =>
    obtain ⟨_, _, h⟩ := Except.bind_eq_ok_iff.mp h
    cases h

end Library

/-! ### Operators -/

namespace Evaluation

theorem isNormal_arithmetic {f : Number → Number → Number} (normal : ∀ x y, (f x y).IsNormal)
    (h : arithmetic f v w = .ok (.number x)) : x.IsNormal := by
  obtain ⟨y, _, h⟩ := Except.bind_eq_ok_iff.mp h
  obtain ⟨z, _, h⟩ := Except.bind_eq_ok_iff.mp h
  cases h
  exact normal y z

theorem isNormal_sum (h : sum v w = .ok (.number x)) : x.IsNormal := by
  obtain ⟨p, _, h⟩ := Except.bind_eq_ok_iff.mp h
  obtain ⟨q, _, h⟩ := Except.bind_eq_ok_iff.mp h
  split at h
  · obtain ⟨_, _, h⟩ := Except.bind_eq_ok_iff.mp h
    cases h
  · obtain ⟨_, _, h⟩ := Except.bind_eq_ok_iff.mp h
    cases h
  · exact isNormal_arithmetic Number.isNormal_add h

/-- An operator that computes with numbers returns a normal one. -/
theorem isNormal_binaryOp {op : BinaryOp}
    (member : op ∈ [BinaryOp.add, .sub, .mul, .div, .mod, .pow])
    (h : binaryOp op v w = .ok (.number x)) : x.IsNormal := by
  cases op with
  | add => exact isNormal_sum h
  | sub => exact isNormal_arithmetic Number.isNormal_sub h
  | mul => exact isNormal_arithmetic Number.isNormal_mul h
  | div => exact isNormal_arithmetic (fun _ _ => Number.isNormal_normalise _) h
  | mod => exact isNormal_arithmetic (fun _ _ => Number.isNormal_normalise _) h
  | pow => exact isNormal_arithmetic Number.isNormal_pow h
  | _ => simp at member

theorem isNormal_unaryOp {op : UnaryOp} (h : unaryOp op v = .ok (.number x)) : x.IsNormal := by
  cases op with
  | not =>
    obtain ⟨_, _, h⟩ := Except.bind_eq_ok_iff.mp h
    cases h
  | neg =>
    obtain ⟨y, _, h⟩ := Except.bind_eq_ok_iff.mp h
    cases h
    exact y.isNormal_neg
  | pos =>
    obtain ⟨y, converted, h⟩ := Except.bind_eq_ok_iff.mp h
    cases h
    exact Value.isNormal_toNumber converted

end Evaluation

/-- **All numbers that are computed are normal.**  Conversion, the operators and the functions of
    the library return normal numbers, on all values; normalising changes exactly the numbers that
    are not normal; and normal numbers that are equal are the same. -/
theorem isNormal_operators_library :
    (∀ (v : Value) (x : Number), v.toNumber = .ok x → x.IsNormal) ∧
    (∀ op ∈ [BinaryOp.add, .sub, .mul, .div, .mod, .pow], ∀ (v w : Value) (x : Number),
      Evaluation.binaryOp op v w = .ok (.number x) → x.IsNormal) ∧
    (∀ (op : UnaryOp) (v : Value) (x : Number),
      Evaluation.unaryOp op v = .ok (.number x) → x.IsNormal) ∧
    (∀ (f : Builtin) (args : List Value) (x : Number),
      Library.apply f args = .ok (.number x) → x.IsNormal) ∧
    (∀ x : Number, x.normalise = x ↔ x.IsNormal) ∧
    ∀ x y : Number, x.IsNormal → y.IsNormal → x.equals y = true → x = y := by
  refine ⟨?_, ?_, ?_, ?_, ?_, ?_⟩
  · intro v x converted
    exact Value.isNormal_toNumber converted
  · intro op member v w x computed
    exact Evaluation.isNormal_binaryOp member computed
  · intro op v x computed
    exact Evaluation.isNormal_unaryOp computed
  · intro f args x computed
    exact Library.isNormal_apply computed
  · intro x
    exact Number.normalise_eq_self_iff
  · intro x y left right same
    exact left.eq_of_equals right same

/-- The remainder of -4.0 by a text is the integer zero, not the negative zero. -/
theorem isNormal_operators_library_negativeZero :
    ∃ x : Number,
      Evaluation.binaryOp .mod (.float (.ofInt (-4))) (.text " 2 ") = .ok (.number x) ∧
      x.IsNormal ∧ x = 0 := by
  obtain ⟨_, binary, _, _, _, unique⟩ := isNormal_operators_library
  have dividend : (Value.float (.ofInt (-4))).toNumber = .ok (.int (-4)) :=
    congrArg Except.ok (by decide +kernel)
  have divisor : (Value.text " 2 ").toNumber = .ok (.int 2) := rfl
  have computed : Evaluation.binaryOp .mod (.float (.ofInt (-4))) (.text " 2 ") =
      .ok (.number ((Number.int (-4)).mod (.int 2))) := by
    rw [Evaluation.binaryOp, Evaluation.arithmetic, dividend, divisor]
    rfl
  have normal := binary .mod (by decide) _ _ _ computed
  have equal : ((Number.int (-4)).mod (.int 2)).equals 0 = true := by decide +kernel
  exact ⟨_, computed, normal, unique _ 0 normal (Nat.zero_le _) equal⟩

end FormEngine
