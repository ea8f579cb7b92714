/-
  FormEngine/Number/Basic.lean
  ============================
  **The numbers of form values**: unbounded integers and binary64 numbers.

  Arithmetic works on *normal* numbers (`Number.normalise`): an integral number of
  magnitude at most 2^53 − 1 is always an integer, every other number a binary64.
  So a normal number has one representation only, and there is no negative zero.
  Numbers of either kind are compared by their exact values; NaN is unordered and
  differs from everything.
-/
import FormEngine.Number.Binary64

namespace FormEngine

/-- A number as a form value holds it. -/
inductive Number where
  | int (n : Int)
  | float (x : Binary64)
deriving DecidableEq, Repr

/-- A place on the extended line: what a number other than NaN is worth. -/
inductive Extent where
  | below
  | at (q : Rat)
  | above
deriving DecidableEq, Repr

/-- Strictly before on the extended line. -/
def Extent.before : Extent → Extent → Bool
  | .below, .below => false
  | .below, _ => true
  | .at _, .below => false
  | .at p, .at q => decide (p < q)
  | .at _, .above => true
  | .above, _ => false

namespace Number

/-- The greatest integer up to which every integer is a binary64 number. -/
def maxSafeInteger : Nat := 9007199254740991

def nan : Number := .float .nan

/-- Infinity with a sign. -/
def infinity (negative : Bool) : Number := .float (.infinite negative)

instance (n : Nat) : OfNat Number n := ⟨.int n⟩

/-! ### Normal form -/

/-- The one representation of a number that arithmetic works on. -/
def normalise : Number → Number
  | .int n => if n.natAbs ≤ maxSafeInteger then .int n else .float (Binary64.ofInt n)
  | .float x =>
    match x.toInt? with
    | some n => if n.natAbs ≤ maxSafeInteger then .int n else .float x
    | none => .float x

/-- An integer in the safe range, or a binary64 number that is none. -/
def IsNormal : Number → Prop
  | .int n => n.natAbs ≤ maxSafeInteger
  | .float x => ∀ n, x.toInt? = some n → maxSafeInteger < n.natAbs

/-- The nearest binary64 number. -/
def toBinary64 : Number → Binary64
  | .int n => Binary64.ofInt n
  | .float x => x

theorem normalise_int_of_le {n : Int} (h : n.natAbs ≤ maxSafeInteger) :
    normalise (.int n) = .int n := by
  simp [normalise, h]

/-- A normal number is its own normal form. -/
theorem normalise_of_isNormal {x : Number} (h : x.IsNormal) : x.normalise = x := by
  cases x with
  | int n => exact normalise_int_of_le h
  | float x =>
    simp only [normalise]
    cases hn : x.toInt? with
    | none => rfl
    | some n =>
      have beyond := h n hn
      exact if_neg (by omega)

/-! ### Value and order -/

/-- What the number is worth; nothing for NaN. -/
def extent? : Number → Option Extent
  | .int n => some (.at n)
  | .float .nan => none
  | .float (.infinite negative) => some (if negative then .below else .above)
  | .float (.finite negative mantissa exponent _) =>
    some (.at (Binary64.signedValue negative mantissa exponent))

def isNaN (x : Number) : Bool := x.extent?.isNone

/-- Neither NaN nor infinite. -/
def isFinite (x : Number) : Bool :=
  match x.extent? with
  | some (.at _) => true
  | _ => false

/-- Equal in value; NaN equals nothing. -/
def equals (x y : Number) : Bool :=
  match x.extent?, y.extent? with
  | some a, some b => decide (a = b)
  | _, _ => false

/-- Less in value; false if one is NaN. -/
def less (x y : Number) : Bool :=
  match x.extent?, y.extent? with
  | some a, some b => a.before b
  | _, _ => false

/-- The order of two numbers, none if one is NaN. -/
def compare? (x y : Number) : Option Ordering :=
  match x.extent?, y.extent? with
  | some a, some b => some (if a.before b then .lt else if b.before a then .gt else .eq)
  | _, _ => none

def isZero (x : Number) : Bool := x.equals 0

/-- The integer part of a finite number, toward zero. -/
def truncated? (x : Number) : Option Int :=
  match x.extent? with
  | some (.at q) => some (Binary64.truncated q)
  | _ => none

/-! ### Arithmetic on normal numbers -/

def add : Number → Number → Number
  | .int a, .int b => normalise (.int (a + b))
  | x, y => normalise (.float (x.toBinary64.add y.toBinary64))

def sub : Number → Number → Number
  | .int a, .int b => normalise (.int (a - b))
  | x, y => normalise (.float (x.toBinary64.sub y.toBinary64))

def mul : Number → Number → Number
  | .int a, .int b => normalise (.int (a * b))
  | x, y => normalise (.float (x.toBinary64.mul y.toBinary64))

def neg : Number → Number
  | .int a => normalise (.int (-a))
  | .float x => normalise (.float x.neg)

def abs : Number → Number
  | .int a => normalise (.int a.natAbs)
  | .float x => normalise (.float x.abs)

/-- Division; by zero a signed infinity, zero by zero and anything by NaN is NaN. -/
def div (x y : Number) : Number := normalise (.float (x.toBinary64.div y.toBinary64))

/-- The remainder with the sign of the dividend; NaN for a divisor zero. -/
def mod (x y : Number) : Number := normalise (.float (x.toBinary64.rem y.toBinary64))

/-- The power: anything to the zero is one, and NaN in either place gives NaN. -/
def pow (base exponent : Number) : Number :=
  if base.isNaN || exponent.isNaN then nan
  else if exponent.isZero then 1
  else if base.isZero && exponent.less 0 then infinity false
  else normalise (.float (base.toBinary64.pow exponent.toBinary64))

/-- The square root, NaN below zero. -/
def sqrt (x : Number) : Number :=
  if x.isNaN || x.less 0 then nan
  else if !x.isFinite then x
  else normalise (.float x.toBinary64.sqrt)

/-- Applies a rounding of rationals to integers; NaN and the infinities stay. -/
def roundedBy (f : Rat → Int) (x : Number) : Number :=
  match x.extent? with
  | some (.at q) => normalise (.int (f q))
  | _ => x

def floor (x : Number) : Number := x.roundedBy Rat.floor

def ceil (x : Number) : Number := x.roundedBy Rat.ceil

/-- The integer nearest to the number, halves upwards.  The half is added in
    binary64 arithmetic before the integer part is taken. -/
def round (x : Number) : Number :=
  match x.extent? with
  | some (.at _) =>
    match (Number.float (x.toBinary64.add (Binary64.ofRat (1 / 2)))).extent? with
    | some (.at q) => normalise (.int q.floor)
    | _ => x
  | _ => x

/-! ### Normal results -/

/-- A number in normal form is normal. -/
theorem isNormal_normalise_int_of_le {n : Int} (h : n.natAbs ≤ maxSafeInteger) :
    (normalise (.int n)).IsNormal := by
  rw [normalise_int_of_le h]; exact h

end Number

end FormEngine
