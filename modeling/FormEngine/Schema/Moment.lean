/-
  FormEngine/Schema/Moment.lean
  =============================
  **Moments given as numbers**: seconds from the beginning of the year 1970 on, in
  universal time.

  A number too great to be seconds of the years around is one of milliseconds.  The
  calendar is that of the Gregorian reform, carried on in both directions; it
  repeats every 400 years.  Counted from March, the leap day is the last of a year.
-/
import FormEngine.Number.Basic
import FormEngine.Text.Numeral

namespace FormEngine.Moment

/-! ### The calendar -/

/-- A day by year, month and day of the month. -/
structure Day where
  year : Int
  month : Int
  day : Int
deriving DecidableEq, Repr

/-- The day that comes so many days after the first of January 1970. -/
def dayAt (days : Int) : Day :=
  let sinceMarch := days + 719468
  let cycle := sinceMarch / 146097
  let dayOfCycle := sinceMarch % 146097
  let yearOfCycle :=
    (dayOfCycle - dayOfCycle / 1460 + dayOfCycle / 36524 - dayOfCycle / 146096) / 365
  let dayOfYear := dayOfCycle - (365 * yearOfCycle + yearOfCycle / 4 - yearOfCycle / 100)
  let monthFromMarch := (5 * dayOfYear + 2) / 153
  let month := if monthFromMarch < 10 then monthFromMarch + 3 else monthFromMarch - 9
  { year := 400 * cycle + yearOfCycle + (if month ≤ 2 then 1 else 0)
    month := month
    day := dayOfYear - (153 * monthFromMarch + 2) / 5 + 1 }

/-! ### Text -/

/-- A natural number in decimal, filled up with zeros to a number of digits. -/
def digits (width : Nat) (n : Int) : String :=
  let written := Nat.toDigits 10 n.toNat
  String.ofList (List.replicate (width - written.length) '0' ++ written)

/-- The moment so many seconds and microseconds after the beginning of 1970, in ISO form;
    only years of one to four digits have a text. -/
def text? (seconds micros : Int) : Option String :=
  let date := dayAt (seconds / 86400)
  let second := seconds % 86400
  if 1 ≤ date.year ∧ date.year ≤ 9999 then
    some (digits 4 date.year ++ "-" ++ digits 2 date.month ++ "-" ++ digits 2 date.day ++ "T"
      ++ digits 2 (second / 3600) ++ ":" ++ digits 2 (second / 60 % 60) ++ ":"
      ++ digits 2 (second % 60)
      ++ (if micros = 0 then "" else "." ++ digits 6 micros) ++ "+00:00")
  else none

/-! ### From numbers -/

/-- The greatest magnitude of a number of seconds. -/
def secondsLimit : Int := 20000000000

/-- The moment of a whole number of seconds or milliseconds, and of microseconds beyond it. -/
def ofParts? (n micros : Int) : Option String :=
  if -secondsLimit ≤ n ∧ n ≤ secondsLimit then text? (n + micros / 1000000) (micros % 1000000)
  else
    let micros := micros + n % 1000 * 1000
    text? (n / 1000 + micros / 1000000) (micros % 1000000)

/-- The microseconds of the fraction of a number; the product is rounded to binary64 first. -/
def fractionMicros (q : Rat) : Int :=
  let fraction := Binary64.ofRat (q - Binary64.truncated q)
  match (fraction.abs.mul (Binary64.ofInt 1000000)).toRat? with
  | some micros => (micros + 1 / 2).floor
  | none => 0

/-- The moment that a number stands for, in ISO form. -/
def ofNumber? (x : Number) : Option String :=
  match x.extent? with
  | some (.at q) => ofParts? q.floor (fractionMicros q)
  | _ => none

end FormEngine.Moment
