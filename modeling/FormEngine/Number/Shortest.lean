/-
  FormEngine/Number/Shortest.lean
  ===============================
  **The fewest digits that read back** to a given binary64 number, and their
  layout.

  The reals that round to a number ± m · 2^e form an interval around it, with its
  ends when m is even.  For one digit, two, … the two neighbours of the number on
  the decimal grid of that many digits are tried; the first grid with a neighbour
  in the interval gives the digits, the nearer of two, the even one of a tie.

  Layout: the decimal exponents −4 … 15 are written positionally and always with a
  point, all others with one digit before the point and a signed exponent of at
  least two digits.
-/
import FormEngine.Number.Binary64

namespace FormEngine.Binary64

/-- The decimal number `digits · 10^exponent`. -/
structure Decimal where
  digits : Nat
  exponent : Int
deriving DecidableEq, Repr

/-- `a · 10^p` compared with `num / den`. -/
def compareDecimal (a : Nat) (p : Int) (num den : Nat) : Ordering :=
  compare (a * Nat.pow 10 p.toNat * den) (num * Nat.pow 10 (-p).toNat)

/-! ### Selection -/

/-- The interval of the reals that round to m · 2^e, in quarters of the last place:
    the ends are `lower / den` and `upper / den`, the number is `value / den`. -/
structure RoundingInterval where
  lower : Nat
  value : Nat
  upper : Nat
  den : Nat
  /-- The ends belong to the interval. -/
  closed : Bool
deriving DecidableEq, Repr

/-- The interval of a positive number.  Below a power of two the numbers lie twice as
    dense, so that the lower end is half as far. -/
def roundingInterval (mantissa : Nat) (exponent : Int) : RoundingInterval :=
  let unit := Nat.pow 2 (exponent - 2).toNat
  let below := if mantissa = fullMantissa ∧ -1074 < exponent then 1 else 2
  { lower := (4 * mantissa - below) * unit
    value := 4 * mantissa * unit
    upper := (4 * mantissa + 2) * unit
    den := Nat.pow 2 (2 - exponent).toNat
    closed := mantissa % 2 == 0 }

/-- The decimal number a · 10^p reads back to the number of the interval. -/
def RoundingInterval.holds (i : RoundingInterval) (a : Nat) (p : Int) : Bool :=
  let low := compareDecimal a p i.lower i.den
  let high := compareDecimal a p i.upper i.den
  (low == .gt || (i.closed && low == .eq)) && (high == .lt || (i.closed && high == .eq))

/-- The least `k` with value < 10^k. -/
def RoundingInterval.magnitude (i : RoundingInterval) : Int :=
  let estimate := floorLog2 i.value i.den * 1233 / 4096
  ([estimate - 1, estimate, estimate + 1, estimate + 2].find?
    (fun k => compareDecimal 1 k i.value i.den == .gt)).getD (estimate + 3)

/-- The best decimal number of the interval on the grid of the multiples of 10^p. -/
def RoundingInterval.nearestOnGrid? (i : RoundingInterval) (p : Int) : Option Nat :=
  let a := i.value * Nat.pow 10 (-p).toNat / (i.den * Nat.pow 10 p.toNat)
  match i.holds a p, i.holds (a + 1) p with
  | false, false => none
  | true, false => some a
  | false, true => some (a + 1)
  | true, true =>
    match compareDecimal (2 * a + 1) p (2 * i.value) i.den with
    | .gt => some a
    | .lt => some (a + 1)
    | .eq => if a % 2 = 0 then some a else some (a + 1)

/-- Moves trailing zeros of the digits into the exponent, at most `fuel` of them. -/
def Decimal.stripZeros : Nat → Decimal → Decimal
  | 0, d => d
  | fuel + 1, d =>
    if d.digits % 10 = 0 then stripZeros fuel ⟨d.digits / 10, d.exponent + 1⟩ else d

/-- The shortest decimal number that reads back to m · 2^e, for a positive mantissa.
    Seventeen digits always suffice; the last case gives the exact value all the same. -/
def shortest (mantissa : Nat) (exponent : Int) : Decimal :=
  let i := roundingInterval mantissa exponent
  let k := i.magnitude
  let found := (List.range 17).findSome? (fun (n : Nat) =>
    let p := k - ((n : Int) + 1)
    (i.nearestOnGrid? p).map (fun a => (⟨a, p⟩ : Decimal)))
  match found with
  | some d => d.stripZeros 20
  | none => ⟨i.value * Nat.pow 5 (2 - exponent).toNat, -((2 - exponent).toNat : Int)⟩

/-! ### Layout -/

/-- The exponent part of a number in scientific form: a sign and at least two digits. -/
def exponentPart (x : Int) : List Char :=
  let digits := Nat.toDigits 10 x.natAbs
  'e' :: (if x < 0 then '-' else '+') :: (if digits.length < 2 then '0' :: digits else digits)

/-- The text of a positive decimal number. -/
def Decimal.layout (d : Decimal) : List Char :=
  let ds := Nat.toDigits 10 d.digits
  let point : Int := (ds.length : Int) + d.exponent
  if -3 ≤ point ∧ point ≤ 16 then
    if 0 ≤ d.exponent then ds ++ List.replicate d.exponent.toNat '0' ++ ['.', '0']
    else if 0 < point then ds.take point.toNat ++ '.' :: ds.drop point.toNat
    else '0' :: '.' :: List.replicate (-point).toNat '0' ++ ds
  else
    match ds with
    | [] => exponentPart (point - 1)
    | [c] => c :: exponentPart (point - 1)
    | c :: rest => c :: '.' :: rest ++ exponentPart (point - 1)

/-- The text of a number: `nan`, `inf`, `-inf`, or the shortest decimal that reads back. -/
def text : Binary64 → String
  | .nan => "nan"
  | .infinite negative => if negative then "-inf" else "inf"
  | .finite negative mantissa exponent _ =>
    let magnitude :=
      if mantissa = 0 then ['0', '.', '0'] else (shortest mantissa exponent).layout
    String.ofList (if negative then '-' :: magnitude else magnitude)

end FormEngine.Binary64
