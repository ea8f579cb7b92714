/-
  FormEngine/Proofs/Expression/Extremes.lean
  ==========================================
  **The greatest and the least of any arguments.**

  Both are one search, in two orders (`Ranking`).  It keeps the best number so far and
  passes on only to a better one, so no number stands behind the one it ends with
  (`not_before_foldl`).  That alone does not fix the result: an integer and a float may
  stand at the same place of the order, and then the first of them is returned.  But the
  arguments are converted, so they are normal, and normal numbers at the same place are the
  same (`Ranking.IsExtreme.eq`).  So the result depends only on which numbers there are,
  neither on their order nor on how often each of them comes (`extreme_congr`).
-/
import FormEngine.Proofs.Expression.NormalResults

namespace FormEngine

/-! ### Rankings -/

/-- An order of the numbers in which NaN alone is not comparable, and the number behind which none
    stands: what is returned for no arguments. -/
structure Ranking where
  before : Number → Number → Bool
  none_ : Number
  asymm {x y : Number} (less : before x y = true) : before y x = false
  /-- Of three numbers the middle one is to be comparable. -/
  trans {x y z : Number} (counts : y ≠ Number.nan) (first : before x y = false)
    (second : before y z = false) : before x z = false
  equals {x y : Number} (left : x ≠ Number.nan) (right : y ≠ Number.nan)
    (notLess : before x y = false) (notGreater : before y x = false) : x.equals y = true
  neutral (x : Number) : before x none_ = false
  isNormal_none : none_.IsNormal
  none_ne_nan : none_ ≠ Number.nan

variable {m n k x : Number} {xs ys : List Number}

namespace Ranking

/-- Greater numbers are better. -/
def ascending : Ranking where
  before := Number.less
  none_ := Number.infinity true
  asymm := Number.not_less_of_less
  trans := Number.not_less_trans
  equals := Number.equals_of_not_less
  neutral := Number.not_less_infinity
  isNormal_none := Number.isNormal_infinity true
  none_ne_nan := by nofun

/-- Lesser numbers are better. -/
def descending : Ranking where
  before x y := y.less x
  none_ := Number.infinity false
  asymm := Number.not_less_of_less
  trans counts first second := Number.not_less_trans counts second first
  equals left right notLess notGreater := Number.equals_of_not_less left right notGreater notLess
  neutral := Number.not_infinity_less
  isNormal_none := Number.isNormal_infinity false
  none_ne_nan := by nofun

variable (r : Ranking)

theorem irrefl (x : Number) : r.before x x = false := by
  by_contra before
  rw [Bool.not_eq_false] at before
  have after := r.asymm before
  rw [before] at after
  cases after

/-- A number of the list, and no number of the list is better. -/
structure IsExtreme (xs : List Number) (m : Number) : Prop where
  member : m ∈ xs
  bound : ∀ x ∈ xs, r.before m x = false

/-- No number is better than the one that the search ends with. -/
theorem not_before_foldl (counts : ∀ y ∈ x :: xs, y ≠ Number.nan) : ∀ y ∈ x :: xs,
    r.before (xs.foldl (fun best y => if r.before best y then y else best) x) y = false := by
  -- the one of `x` and `z` that is given up is not better than the other, which is kept
  induction xs generalizing x with
  | nil =>
    rw [List.forall_mem_singleton]
    exact r.irrefl x
  | cons z xs ih =>
    simp only [List.forall_mem_cons] at counts ih ⊢
    obtain ⟨first, next, rest⟩ := counts
    rw [List.foldl_cons]
    cases better : r.before x z with
    | true =>
      rw [if_pos rfl]
      obtain ⟨kept, others⟩ := ih ⟨next, rest⟩
      exact ⟨r.trans next kept (r.asymm better), kept, others⟩
    | false =>
      rw [if_neg Bool.false_ne_true]
      obtain ⟨kept, others⟩ := ih ⟨first, rest⟩
      exact ⟨kept, r.trans first kept better, others⟩

namespace IsExtreme

variable {r}

/-- Normal numbers have one extreme at most. -/
theorem eq (first : r.IsExtreme xs m) (second : r.IsExtreme xs n)
    (counts : ∀ x ∈ xs, x ≠ Number.nan) (normal : ∀ x ∈ xs, x.IsNormal) : m = n := by
  apply (normal m first.member).eq_of_equals (normal n second.member)
  exact r.equals (counts m first.member) (counts n second.member)
    (first.bound n second.member) (second.bound m first.member)

theorem congr (h : r.IsExtreme xs m) (same : ∀ x, x ∈ xs ↔ x ∈ ys) : r.IsExtreme ys m where
  member := (same m).mp h.member
  bound x member := h.bound x ((same x).mpr member)

/-- The extreme of two extremes is that of all the numbers. -/
theorem append (left : r.IsExtreme xs m) (right : r.IsExtreme ys n) (best : r.IsExtreme [m, n] k)
    (leftCounts : m ≠ Number.nan) (rightCounts : n ≠ Number.nan) : r.IsExtreme (xs ++ ys) k := by
  obtain ⟨member, bound⟩ := best
  constructor
  · rcases List.mem_pair.mp member with rfl | rfl
    · exact List.mem_append_left ys left.member
    · exact List.mem_append_right xs right.member
  · intro x inside
    rcases List.mem_append.mp inside with inLeft | inRight
    · exact r.trans leftCounts (bound m (by simp)) (left.bound x inLeft)
    · exact r.trans rightCounts (bound n (by simp)) (right.bound x inRight)

end IsExtreme

end Ranking

/-! ### Extremes of numbers -/

namespace Library

variable (r : Ranking)

theorem extreme_of_mem_nan (before : Number → Number → Bool) (none_ : Number)
    (isNaN : Number.nan ∈ xs) : extreme before none_ xs = Number.nan := by
  have some : xs.any Number.isNaN = true := List.any_eq_true.mpr ⟨_, isNaN, rfl⟩
  unfold extreme
  rw [some, if_pos rfl]

/-- Of some numbers an extreme one is returned. -/
theorem isExtreme_extreme (counts : ∀ x ∈ xs, x ≠ Number.nan) (nonempty : xs ≠ []) :
    r.IsExtreme xs (extreme r.before r.none_ xs) := by
  have noNaN : xs.any Number.isNaN = false := by
    rw [List.any_eq_false]
    intro x member
    rw [Number.isNaN, Option.isNone_iff_eq_none, Number.extent?_eq_none_iff]
    exact counts x member
  cases xs with
  | nil => exact absurd rfl nonempty
  | cons x xs =>
    unfold extreme
    rw [noNaN, if_neg Bool.false_ne_true]
    exact ⟨foldl_mem r.before xs x, r.not_before_foldl counts⟩

/-- The number that is returned for none can be counted among the numbers. -/
theorem isExtreme_none_cons (counts : ∀ x ∈ xs, x ≠ Number.nan) :
    r.IsExtreme (r.none_ :: xs) (extreme r.before r.none_ xs) := by
  by_cases empty : xs = []
  · subst empty
    exact ⟨List.mem_singleton_self _, List.forall_mem_singleton.mpr (r.neutral _)⟩
  · obtain ⟨member, bound⟩ := isExtreme_extreme r counts empty
    exact ⟨List.mem_cons_of_mem _ member, List.forall_mem_cons.mpr ⟨r.neutral _, bound⟩⟩

theorem extreme_ne_nan (counts : ∀ x ∈ xs, x ≠ Number.nan) :
    extreme r.before r.none_ xs ≠ Number.nan := by
  rcases List.mem_cons.mp (isExtreme_none_cons r counts).member with same | member
  · rw [same]
    exact r.none_ne_nan
  · exact counts _ member

variable {r}

/-- The extreme depends only on which numbers there are. -/
theorem extreme_congr (normal : ∀ x ∈ xs, x.IsNormal) (same : ∀ x, x ∈ xs ↔ x ∈ ys) :
    extreme r.before r.none_ xs = extreme r.before r.none_ ys := by
  by_cases isNaN : Number.nan ∈ xs
  · rw [extreme_of_mem_nan _ _ isNaN, extreme_of_mem_nan _ _ ((same _).mp isNaN)]
  · have counts : ∀ x ∈ xs, x ≠ Number.nan := fun x member => ne_of_mem_of_not_mem member isNaN
    have countsToo : ∀ y ∈ ys, y ≠ Number.nan := fun y member => counts y ((same y).mpr member)
    have sameToo : ∀ x, x ∈ r.none_ :: ys ↔ x ∈ r.none_ :: xs := by
      intro x
      rw [List.mem_cons, List.mem_cons, same]
    exact (isExtreme_none_cons r counts).eq ((isExtreme_none_cons r countsToo).congr sameToo)
      (List.forall_mem_cons.mpr ⟨r.none_ne_nan, counts⟩)
      (List.forall_mem_cons.mpr ⟨r.isNormal_none, normal⟩)

/-- Extremes can be taken in parts. -/
theorem extreme_extremes (normal : ∀ x ∈ xs ++ ys, x.IsNormal) :
    extreme r.before r.none_ [extreme r.before r.none_ xs, extreme r.before r.none_ ys] =
      extreme r.before r.none_ (xs ++ ys) := by
  by_cases isNaN : Number.nan ∈ xs ++ ys
  · rw [extreme_of_mem_nan _ _ isNaN]
    apply extreme_of_mem_nan
    rcases List.mem_append.mp isNaN with left | right
    · rw [extreme_of_mem_nan _ _ left]
      exact List.mem_cons_self
    · rw [extreme_of_mem_nan _ _ right]
      exact List.mem_cons_of_mem _ (List.mem_singleton_self _)
  · have counts : ∀ x ∈ r.none_ :: (xs ++ ys), x ≠ Number.nan :=
      List.forall_mem_cons.mpr ⟨r.none_ne_nan, fun x member => ne_of_mem_of_not_mem member isNaN⟩
    obtain ⟨leftCounts, rightCounts⟩ := List.forall_mem_append.mp (List.forall_mem_cons.mp counts).2
    have left := isExtreme_none_cons r leftCounts
    have right := isExtreme_none_cons r rightCounts
    have leftNumber := extreme_ne_nan r leftCounts
    have rightNumber := extreme_ne_nan r rightCounts
    have best := isExtreme_extreme r (List.forall_mem_cons.mpr
      ⟨leftNumber, List.forall_mem_singleton.mpr rightNumber⟩) (List.cons_ne_nil _ _)
    have sameMembers : ∀ x, x ∈ (r.none_ :: xs) ++ (r.none_ :: ys) ↔ x ∈ r.none_ :: (xs ++ ys) := by
      intro x
      simp only [List.mem_append, List.mem_cons]
      tauto
    exact ((left.append right best leftNumber rightNumber).congr sameMembers).eq
      (isExtreme_none_cons r (List.forall_mem_cons.mp counts).2) counts
      (List.forall_mem_cons.mpr ⟨r.isNormal_none, normal⟩)

/-! ### Extremes of arguments -/

/-- The functions that return an extreme of their arguments. -/
def rankings : List (Builtin × Ranking) := [(.max, .ascending), (.min, .descending)]

variable {f : Builtin} {args more : List Value}

theorem apply_of_mem_rankings (listed : (f, r) ∈ rankings) (read : numbers args = .ok xs) :
    apply f args = .ok (.number (extreme r.before r.none_ xs)) := by
  rcases List.mem_pair.mp listed with same | same
  · cases same
    rw [apply, read]
    rfl
  · cases same
    rw [apply, read]
    rfl

theorem numbers_append (left : numbers args = .ok xs) (right : numbers more = .ok ys) :
    numbers (args ++ more) = .ok (xs ++ ys) := by
  unfold numbers at left right ⊢
  rw [List.mapM_append, left, right]
  rfl

/-- Normal numbers are converted to themselves. -/
theorem numbers_pair (first : m.IsNormal) (second : n.IsNormal) :
    numbers [.number m, .number n] = .ok [m, n] := by
  have same : numbers [.number m, .number n] = .ok [m.normalise, n.normalise] := rfl
  rw [same, Number.normalise_of_isNormal first, Number.normalise_of_isNormal second]

/-- Arguments that are all converted have the numbers to which they are converted. -/
theorem exists_numbers (converts : ∀ v ∈ args, ∃ x, v.toNumber = .ok x) :
    ∃ xs, numbers args = .ok xs ∧ ∀ x, x ∈ xs ↔ ∃ v ∈ args, v.toNumber = .ok x := by
  obtain ⟨xs, read⟩ := Except.exists_mapM_eq_ok_iff.mpr converts
  exact ⟨xs, read, fun x => Except.mem_iff_of_mapM_eq_ok read⟩

/-- The result depends only on which values are among the arguments. -/
theorem apply_congr_of_mem_iff (listed : (f, r) ∈ rankings)
    (converts : ∀ v ∈ args, ∃ x, v.toNumber = .ok x) (same : ∀ v, v ∈ more ↔ v ∈ args) :
    apply f more = apply f args := by
  obtain ⟨xs, read, ofArgs⟩ := exists_numbers converts
  obtain ⟨ys, readMore, ofMore⟩ :=
    exists_numbers (fun v member => converts v ((same v).mp member))
  have sameNumbers : ∀ x, x ∈ ys ↔ x ∈ xs := by
    intro x
    rw [ofArgs, ofMore]
    simp only [same]
  rw [apply_of_mem_rankings listed read, apply_of_mem_rankings listed readMore,
    extreme_congr (isNormal_of_mem_numbers readMore) sameNumbers]

/-- The extreme of two results is that of all the arguments. -/
theorem apply_results (listed : (f, r) ∈ rankings) (left : numbers args = .ok xs)
    (right : numbers more = .ok ys) :
    apply f [.number (extreme r.before r.none_ xs), .number (extreme r.before r.none_ ys)] =
      apply f (args ++ more) := by
  have leftNormal := isNormal_of_mem_numbers left
  have rightNormal := isNormal_of_mem_numbers right
  have first : (extreme r.before r.none_ xs).IsNormal := isNormal_extreme r.isNormal_none leftNormal
  have second : (extreme r.before r.none_ ys).IsNormal :=
    isNormal_extreme r.isNormal_none rightNormal
  rw [apply_of_mem_rankings listed (numbers_pair first second),
    apply_of_mem_rankings listed (numbers_append left right),
    extreme_extremes (List.forall_mem_append.mpr ⟨leftNormal, rightNormal⟩)]

/-- **The extreme of the arguments.**  Of arguments that are all converted, with more of them:
    the extreme of the two extremes is that of all arguments; every order of the arguments has the
    same one; it is NaN if an argument is converted to NaN, and the number behind all others if
    there are no arguments; otherwise it is one of the converted arguments, and none of them is
    better. -/
theorem apply_extreme (listed : (f, r) ∈ rankings)
    (converts : ∀ v ∈ args ++ more, ∃ x, v.toNumber = .ok x) :
    (∃ m n, apply f args = .ok (.number m) ∧ apply f more = .ok (.number n) ∧
      apply f [.number m, .number n] = apply f (args ++ more)) ∧
    (∀ reordered, args.Perm reordered → apply f reordered = apply f args) ∧
    ((∃ v ∈ args, v.toNumber = .ok Number.nan) → apply f args = .ok (.number Number.nan)) ∧
    (args = [] → apply f args = .ok (.number r.none_)) ∧
    (args ≠ [] → (∀ v ∈ args, v.toNumber ≠ .ok Number.nan) →
      ∃ v ∈ args, ∃ m, v.toNumber = .ok m ∧ apply f args = .ok (.number m) ∧
        ∀ w ∈ args, ∀ x, w.toNumber = .ok x → r.before m x = false) := by
  obtain ⟨leftConverts, rightConverts⟩ := List.forall_mem_append.mp converts
  obtain ⟨xs, read, isConverted⟩ := exists_numbers leftConverts
  obtain ⟨ys, readMore, _⟩ := exists_numbers rightConverts
  have value := apply_of_mem_rankings listed read
  refine ⟨?parts, ?reordered, ?isNaN, ?empty, ?best⟩
  case parts =>
    exact ⟨_, _, value, apply_of_mem_rankings listed readMore, apply_results listed read readMore⟩
  case reordered =>
    intro reordered perm
    exact apply_congr_of_mem_iff listed leftConverts (fun v => perm.symm.mem_iff)
  case isNaN =>
    intro some
    rw [value, extreme_of_mem_nan _ _ ((isConverted _).mpr some)]
  case empty =>
    rintro rfl
    cases read
    exact value
  case best =>
    intro nonempty noNaN
    have counts : ∀ x ∈ xs, x ≠ Number.nan := by
      rintro x member rfl
      obtain ⟨v, inside, converted⟩ := (isConverted _).mp member
      exact noNaN v inside converted
    have someNumber : xs ≠ [] := by
      obtain ⟨v, inside⟩ := List.exists_mem_of_ne_nil args nonempty
      obtain ⟨x, converted⟩ := leftConverts v inside
      exact List.ne_nil_of_mem ((isConverted x).mpr ⟨v, inside, converted⟩)
    obtain ⟨member, bound⟩ := isExtreme_extreme r counts someNumber
    obtain ⟨v, inside, converted⟩ := (isConverted _).mp member
    refine ⟨v, inside, _, converted, value, ?_⟩
    intro w listedToo x convertedToo
    exact bound x ((isConverted x).mpr ⟨w, listedToo, convertedToo⟩)

/-- A text, a float and an integer that are all worth seven, and a null: the integer is the
    greatest. -/
theorem apply_extreme_seven :
    (Builtin.max, Ranking.ascending) ∈ rankings ∧
      (∀ v ∈ [Value.text " 7.0 ", .null] ++ [.float (.ofInt 7), .int 7],
        ∃ x, v.toNumber = .ok x) ∧
      apply .max [.text " 7.0 ", .null] = .ok (.int 7) ∧
      apply .max [.null, .text " 7.0 "] = .ok (.int 7) ∧
      ∃ n, apply .max [.float (.ofInt 7), .int 7] = .ok (.number n) ∧
        apply .max [.int 7, .number n] =
          apply .max [.text " 7.0 ", .null, .float (.ofInt 7), .int 7] := by
  have listed : (Builtin.max, Ranking.ascending) ∈ rankings := List.mem_cons_self
  have ofText : (Value.text " 7.0 ").toNumber = .ok (.int 7) := by decide +kernel
  have ofFloat : (Value.float (.ofInt 7)).toNumber = .ok (.int 7) := by decide +kernel
  have converts : ∀ v ∈ [Value.text " 7.0 ", .null] ++ [.float (.ofInt 7), .int 7],
      ∃ x, v.toNumber = .ok x := by
    simp only [List.forall_mem_append, List.forall_mem_cons]
    exact ⟨⟨⟨_, ofText⟩, ⟨_, rfl⟩, nofun⟩, ⟨_, ofFloat⟩, ⟨_, rfl⟩, nofun⟩
  obtain ⟨⟨m, n, first, second, whole⟩, reordered, _⟩ := apply_extreme listed converts
  have read : numbers [.text " 7.0 ", .null] = .ok [.int 7, .int 0] := by decide +kernel
  have greatest : extreme Number.less (Number.infinity true) [.int 7, .int 0] = .int 7 := by
    decide +kernel
  have seven : apply .max [.text " 7.0 ", .null] = .ok (.int 7) := by
    rw [apply_of_mem_rankings listed read]
    exact congrArg (fun x => Except.ok (Value.number x)) greatest
  rw [seven] at first
  cases first
  have turned := (reordered _ (List.Perm.swap _ _ _)).trans seven
  exact ⟨listed, converts, seven, turned, n, second, whole⟩

end Library

end FormEngine
