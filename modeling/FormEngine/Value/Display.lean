/-
  FormEngine/Value/Display.lean
  =============================
  **Display of a value in a diagnostic message.**

  Texts are quoted, collections are written out in brackets of their kind, and a
  date shows its parts.  Writing fails only for an integer beyond the digit limit.
-/
import FormEngine.Number.Shortest
import FormEngine.Text.Quoted
import FormEngine.Value.Basic

namespace FormEngine.Value

/-! ### Dates -/

/-- The maximal runs of ASCII digits of a text, as numbers. -/
def digitRuns (s : List Char) : List Nat :=
  let close (run : Option Nat) (found : List Nat) : List Nat :=
    match run with
    | some n => n :: found
    | none => found
  let (last, found) := s.foldl (fun (state : Option Nat × List Nat) c =>
    if c.isDigit then (some (10 * state.1.getD 0 + (c.toNat - 48)), state.2)
    else (none, close state.1 state.2)) (none, [])
  (close last found).reverse

/-- The time of day of an ISO text, cut into clock and offset from universal time. -/
def clockAndOffset (time : List Char) : List Char × Option (Bool × List Char) :=
  let clock := time.takeWhile (fun c => c ≠ '+' ∧ c ≠ '-')
  match time.drop clock.length with
  | '+' :: offset => (clock, some (false, offset))
  | '-' :: offset => (clock, some (true, offset))
  | _ => (clock, none)

/-- Seconds of an offset given as hours, minutes and seconds. -/
def offsetSeconds : List Nat → Nat
  | hours :: minutes :: seconds :: _ => 3600 * hours + 60 * minutes + seconds
  | [hours, minutes] => 3600 * hours + 60 * minutes
  | [hours] => 3600 * hours
  | [] => 0

/-- The offset from universal time; one west of it is counted back from the next day. -/
def displayedOffset (west : Bool) (offset : List Char) : String :=
  let seconds := offsetSeconds (digitRuns offset)
  if seconds = 0 then "datetime.timezone.utc"
  else if west then
    "datetime.timezone(datetime.timedelta(days=-1, seconds=" ++ (86400 - seconds).repr ++ "))"
  else "datetime.timezone(datetime.timedelta(seconds=" ++ seconds.repr ++ "))"

/-- The parts of a time of day; no seconds are not shown. -/
def clockParts (clock : List Char) : List Nat :=
  match digitRuns clock with
  | [hour, minute, 0] => [hour, minute]
  | parts => parts

/-- A date, a date with a time, or a time of day, part by part. -/
def displayedDate (iso : String) : String :=
  let parts (ns : List Nat) : List String := ns.map Nat.repr
  let day := iso.toList.takeWhile (fun c => c ≠ 'T')
  match iso.toList.drop day.length with
  | [] =>
    if day.contains ':' then
      "datetime.time(" ++ String.intercalate ", " (parts (clockParts day)) ++ ")"
    else "datetime.date(" ++ String.intercalate ", " (parts (digitRuns day)) ++ ")"
  | _ :: time =>
    let (clock, offset) := clockAndOffset time
    let zone :=
      match offset with
      | some (west, offset) => ["tzinfo=" ++ displayedOffset west offset]
      | none => []
    "datetime.datetime("
      ++ String.intercalate ", " (parts (digitRuns day ++ clockParts clock) ++ zone) ++ ")"

/-! ### Values -/

mutual

/-- The value as it is displayed in a message. -/
def display : Value → Except NumeralError String
  | .null => .ok "None"
  | .bool b => .ok (if b then "True" else "False")
  | .number (.int n) => Text.writeDecimal n
  | .number (.float x) => .ok x.text
  | .text s => .ok (Text.quoted s)
  | .list _ items => do
    return "[" ++ String.intercalate ", " (← displayItems items) ++ "]"
  | .tuple _ items => do
    match ← displayItems items with
    | [one] => return "(" ++ one ++ ",)"
    | shown => return "(" ++ String.intercalate ", " shown ++ ")"
  | .set _ items => do
    match ← displayItems items with
    | [] => return "set()"
    | shown => return "\x7b" ++ String.intercalate ", " shown ++ "\x7d"
  | .mapping _ entries => do
    return "\x7b" ++ String.intercalate ", " (← displayEntries entries) ++ "\x7d"
  | .date _ iso => .ok (displayedDate iso)
  | .function _ => .ok "<function>"

def displayItems : List Value → Except NumeralError (List String)
  | [] => .ok []
  | v :: rest => do
    let shown ← v.display
    return shown :: (← displayItems rest)

def displayEntries : List (String × Value) → Except NumeralError (List String)
  | [] => .ok []
  | (key, v) :: rest => do
    let shown ← v.display
    return (Text.quoted key ++ ": " ++ shown) :: (← displayEntries rest)

end

end FormEngine.Value
