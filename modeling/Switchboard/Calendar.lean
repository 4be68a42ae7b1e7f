import Switchboard.Decimal

/-!
# Calendar

Seconds since the start of 1970 as date and time of day in universal time. Days are counted in
whole cycles of 400 years from a first of March, so that the leap day ends a year.
-/

namespace Switchboard.Calendar

/-- A day of the calendar. -/
structure Date where
  year : Nat
  month : Nat
  day : Nat
  deriving Repr, DecidableEq

/-- Days of a cycle of 400 years. -/
def cycleDays : Nat := 146097

/-- The date of a day, counted from the start of 1970. -/
def dateOfDay (days : Nat) : Date :=
  -- days since the first of March of the year 0
  let n := days + 719468
  let dayOfCycle := n % cycleDays
  let yearOfCycle :=
    (dayOfCycle - dayOfCycle / 1460 + dayOfCycle / 36524 - dayOfCycle / 146096) / 365
  let dayOfYear := dayOfCycle - (365 * yearOfCycle + yearOfCycle / 4 - yearOfCycle / 100)
  let m := (5 * dayOfYear + 2) / 153
  let month := if m < 10 then m + 3 else m - 9
  let year := n / cycleDays * 400 + yearOfCycle + (if month ≤ 2 then 1 else 0)
  ⟨year, month, dayOfYear - (153 * m + 2) / 5 + 1⟩

/-- A number with at least so many digits. -/
def padded (width n : Nat) : String :=
  let digits := Decimal.write n
  String.ofList (List.replicate (width - digits.length) '0' ++ digits)

/-- Date and time of day to the second, with a `Z` for universal time. -/
def text (seconds : Nat) : String :=
  let d := dateOfDay (seconds / 86400)
  let s := seconds % 86400
  padded 4 d.year ++ "-" ++ padded 2 d.month ++ "-" ++ padded 2 d.day ++ "T" ++
    padded 2 (s / 3600) ++ ":" ++ padded 2 (s / 60 % 60) ++ ":" ++ padded 2 (s % 60) ++ "Z"

example : text 1709164800 = "2024-02-29T00:00:00Z" := by decide +kernel
example : text 1735689599 = "2024-12-31T23:59:59Z" := by decide +kernel

end Switchboard.Calendar
