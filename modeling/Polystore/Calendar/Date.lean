import Polystore.Number.Integer

/-!
# Dates

Dates of the Gregorian calendar from year 1 to year 9999, and their place in the row of days.

* `Date`, `Date.isValid`, `Date.iso`;
* `Date.toDays`, `Date.ofDays?`: days since the first of January of year 1.
-/

namespace Polystore.Calendar

open Polystore.Number

/-- A day of the calendar. -/
structure Date where
  year : Nat
  month : Nat
  day : Nat
deriving DecidableEq, Repr, Inhabited

def isLeap (year : Nat) : Bool := year % 4 == 0 && (year % 100 != 0 || year % 400 == 0)

def daysInMonth (year month : Nat) : Nat :=
  if month = 2 then (if isLeap year then 29 else 28)
  else if month ∈ [4, 6, 9, 11] then 30
  else 31

/-- The number of days of the year before a month. -/
def daysBeforeMonth (year month : Nat) : Nat :=
  (List.range (month - 1)).foldl (fun days m => days + daysInMonth year (m + 1)) 0

/-- The number of days before a year. -/
def daysBeforeYear (year : Nat) : Nat :=
  let y := year - 1
  y * 365 + y / 4 - y / 100 + y / 400

def maxYear : Nat := 9999

namespace Date

/-- Whether the three numbers name a day. -/
def isValid (d : Date) : Bool :=
  1 ≤ d.year && d.year ≤ maxYear && 1 ≤ d.month && d.month ≤ 12
    && 1 ≤ d.day && d.day ≤ daysInMonth d.year d.month

def iso (d : Date) : List Char :=
  padded 4 d.year ++ '-' :: (padded 2 d.month ++ '-' :: padded 2 d.day)

/-- The number of days since the first day of the calendar. -/
def toDays (d : Date) : Nat :=
  daysBeforeYear d.year + daysBeforeMonth d.year d.month + (d.day - 1)

/-- The month and day at a place in a year, from a month on. -/
def monthAt (year : Nat) : (months month rest : Nat) → Nat × Nat
  | 0, month, rest => (month, rest + 1)
  | months + 1, month, rest =>
    let days := daysInMonth year month
    if rest < days then (month, rest + 1) else monthAt year months (month + 1) (rest - days)

/-- The day at a place in the row of days, if the calendar holds it. -/
def ofDays? (days : Int) : Option Date :=
  if days < 0 then none
  else
    let guess := days.toNat / 366 + 1
    let later := (List.range 30).find? fun k => days.toNat < daysBeforeYear (guess + k + 1)
    let year := guess + later.getD 30
    if year ≤ maxYear then
      let (month, day) := monthAt year 11 1 (days.toNat - daysBeforeYear year)
      some ⟨year, month, day⟩
    else none

end Date

end Polystore.Calendar
