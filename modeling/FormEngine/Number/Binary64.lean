/-
  FormEngine/Number/Binary64.lean
  ===============================
  **Binary floating-point numbers of double precision**, exactly.

  A finite number is a sign, a mantissa below 2^53 and an exponent of two, in the
  one canonical form, so that equal data is equal value (the two zeros apart).
  Every operation computes the exact rational result and rounds once
  (`ofRatio`): to the nearest number, a tie to the even mantissa, too large a
  result to infinity.  Nothing here is approximate, so that the laws of the
  engine's arithmetic are statements about integers and rationals.
-/

namespace FormEngine

/-- The least mantissa of full length, 2^52. -/
def fullMantissa : Nat := 0x10000000000000

/-- The mantissa and the exponent are in canonical form: full 53 bits, or the
    least exponent. -/
def CanonicalBinary (mantissa : Nat) (exponent : Int) : Prop :=
  mantissa < fullMantissa * 2 ∧ -1074 ≤ exponent ∧ exponent ≤ 971 ∧
    (fullMantissa ≤ mantissa ∨ exponent = -1074)

instance (mantissa : Nat) (exponent : Int) : Decidable (CanonicalBinary mantissa exponent) := by
  unfold CanonicalBinary; infer_instance

/-- A number of the binary64 format: `finite s m e` is ± m · 2^e. -/
inductive Binary64 where
  | nan
  | infinite (negative : Bool)
  | finite (negative : Bool) (mantissa : Nat) (exponent : Int)
      (canonical : CanonicalBinary mantissa exponent)
deriving DecidableEq, Repr

namespace Binary64

/-! ### Parts and exact values -/

/-- Zero with a sign. -/
def zero (negative : Bool) : Binary64 := .finite negative 0 (-1074) (by decide)

/-- The number with these parts; parts that are not canonical stand for a number
    beyond the greatest finite one. -/
def ofParts (negative : Bool) (mantissa : Nat) (exponent : Int) : Binary64 :=
  if h : CanonicalBinary mantissa exponent then .finite negative mantissa exponent h
  else .infinite negative

/-- The rational number ± m · 2^e. -/
def signedValue (negative : Bool) (mantissa : Nat) (exponent : Int) : Rat :=
  let magnitude := (mantissa : Rat) * (2 : Rat) ^ exponent
  if negative then -magnitude else magnitude

/-- The exact value of a finite number. -/
def toRat? : Binary64 → Option Rat
  | .finite negative mantissa exponent _ => some (signedValue negative mantissa exponent)
  | _ => none

/-- The sign bit; that of NaN does not matter. -/
def isNegative : Binary64 → Bool
  | .nan => false
  | .infinite negative => negative
  | .finite negative _ _ _ => negative

/-- Neither NaN nor an infinity. -/
def isFinite : Binary64 → Bool
  | .finite _ _ _ _ => true
  | _ => false

/-- The number with its sign turned. -/
def neg : Binary64 → Binary64
  | .nan => .nan
  | .infinite negative => .infinite (!negative)
  | .finite negative mantissa exponent h => .finite (!negative) mantissa exponent h

/-- The number without its sign. -/
def abs : Binary64 → Binary64
  | .nan => .nan
  | .infinite _ => .infinite false
  | .finite _ mantissa exponent h => .finite false mantissa exponent h

/-! ### Rounding -/

/-- The fraction `num / den` divided by 2^e, again as a fraction. -/
def scaled (num den : Nat) (e : Int) : Nat × Nat :=
  (num * Nat.pow 2 (-e).toNat, den * Nat.pow 2 e.toNat)

/-- The greatest `k` with 2^k ≤ num / den, for positive `num` and `den`. -/
def floorLog2 (num den : Nat) : Int :=
  let k : Int := (num.log2 : Int) - (den.log2 : Int)
  if (scaled num den k).2 ≤ (scaled num den k).1 then k else k - 1

/-- The integer nearest to `num / den`, the even one of two. -/
def nearestEven (num den : Nat) : Nat :=
  let quotient := num / den
  let remainder := num % den
  if 2 * remainder < den ∨ (2 * remainder = den ∧ quotient % 2 = 0) then quotient
  else quotient + 1

/-- The exponent of the binary grid on which a positive fraction is rounded. -/
def gridExponent (num den : Nat) : Int := max (floorLog2 num den - 52) (-1074)

/-- The number nearest to ± num / den. -/
def ofRatio (negative : Bool) (num den : Nat) : Binary64 :=
  if num = 0 then zero negative
  else
    let e := gridExponent num den
    let m := nearestEven (scaled num den e).1 (scaled num den e).2
    if m = fullMantissa * 2 then ofParts negative fullMantissa (e + 1) else ofParts negative m e

/-- The number nearest to a rational; the zero is positive. -/
def ofRat (q : Rat) : Binary64 := ofRatio (decide (q < 0)) q.num.natAbs q.den

/-- The number nearest to an integer. -/
def ofInt (n : Int) : Binary64 := ofRatio (decide (n < 0)) n.natAbs 1

/-- The number nearest to ± mantissa · 10^exponent.  Exponents far outside the
    range are settled without computing the power. -/
def ofDecimal (negative : Bool) (mantissa : Nat) (exponent : Int) : Binary64 :=
  if mantissa = 0 then zero negative
  else if 400 < exponent then .infinite negative
  else if (mantissa.log2 / 3 + 1 : Int) + exponent < -400 then zero negative
  else ofRatio negative (mantissa * Nat.pow 10 exponent.toNat) (Nat.pow 10 (-exponent).toNat)

/-! ### Integral values -/

/-- The integer that the number is, if it is one. -/
def toInt? (x : Binary64) : Option Int :=
  match x.toRat? with
  | some q => if q.den = 1 then some q.num else none
  | none => none

/-- The integer part, toward zero. -/
def truncated (q : Rat) : Int := if q < 0 then q.ceil else q.floor

/-! ### Arithmetic -/

def add : Binary64 → Binary64 → Binary64
  | .nan, _ => .nan
  | _, .nan => .nan
  | .infinite s, .infinite t => if s = t then .infinite s else .nan
  | .infinite s, .finite _ _ _ _ => .infinite s
  | .finite _ _ _ _, .infinite t => .infinite t
  | .finite s m e _, .finite t n f _ =>
    let sum := signedValue s m e + signedValue t n f
    if sum = 0 then zero (s && t) else ofRat sum

def sub (x y : Binary64) : Binary64 := add x y.neg

def mul : Binary64 → Binary64 → Binary64
  | .nan, _ => .nan
  | _, .nan => .nan
  | .infinite s, .infinite t => .infinite (s != t)
  | .infinite s, .finite t n _ _ => if n = 0 then .nan else .infinite (s != t)
  | .finite s m _ _, .infinite t => if m = 0 then .nan else .infinite (s != t)
  | .finite s m e _, .finite t n f _ =>
    let product := signedValue false m e * signedValue false n f
    ofRatio (s != t) product.num.natAbs product.den

/-- Division; a zero divisor gives a signed infinity, or NaN for zero by zero. -/
def div : Binary64 → Binary64 → Binary64
  | .nan, _ => .nan
  | _, .nan => .nan
  | .infinite _, .infinite _ => .nan
  | .infinite s, .finite t _ _ _ => .infinite (s != t)
  | .finite s _ _ _, .infinite t => zero (s != t)
  | .finite s m e _, .finite t n f _ =>
    if n = 0 then (if m = 0 then .nan else .infinite (s != t))
    else
      let quotient := signedValue false m e / signedValue false n f
      ofRatio (s != t) quotient.num.natAbs quotient.den

/-- The remainder of the division that truncates toward zero; it has the sign of
    the dividend and is always exact. -/
def rem : Binary64 → Binary64 → Binary64
  | .nan, _ => .nan
  | _, .nan => .nan
  | .infinite _, _ => .nan
  | .finite s m e h, .infinite _ => .finite s m e h
  | .finite s m e _, .finite _ n f _ =>
    if n = 0 then .nan
    else
      let x := signedValue false m e
      let y := signedValue false n f
      let r := x - y * ((x / y).floor : Rat)
      ofRatio s r.num.natAbs r.den

/-! ### The machine word -/

/-- The 64 bits of the interchange format. -/
def toBits : Binary64 → UInt64
  | .nan => 0x7FF8000000000000
  | .infinite negative => if negative then 0xFFF0000000000000 else 0x7FF0000000000000
  | .finite negative mantissa exponent _ =>
    let biased := if mantissa < fullMantissa then 0 else (exponent + 1075).toNat
    let fraction := if mantissa < fullMantissa then mantissa else mantissa - fullMantissa
    UInt64.ofNat ((if negative then 0x8000000000000000 else 0) + biased * fullMantissa + fraction)

/-- The number of the interchange format with these 64 bits. -/
def ofBits (bits : UInt64) : Binary64 :=
  let negative := decide (0x8000000000000000 ≤ bits.toNat)
  let biased : Nat := bits.toNat / fullMantissa % 2048
  let fraction : Nat := bits.toNat % fullMantissa
  if biased = 2047 then (if fraction = 0 then .infinite negative else .nan)
  else if biased = 0 then ofParts negative fraction (-1074)
  else ofParts negative (fullMantissa + fraction) ((biased : Int) - 1075)

/-- The power of two numbers, as the mathematical library of the machine gives it. -/
def pow (x y : Binary64) : Binary64 :=
  ofBits ((Float.ofBits x.toBits).pow (Float.ofBits y.toBits)).toBits

/-- The square root, correctly rounded. -/
def sqrt (x : Binary64) : Binary64 := ofBits (Float.ofBits x.toBits).sqrt.toBits

end Binary64

end FormEngine
