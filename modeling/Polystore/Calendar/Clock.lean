import Polystore.Number.Integer

/-!
# Times of day and durations

* `Clock`: a time of day to the microsecond, with `Clock.iso`;
* `Offset`: the distance from universal time in microseconds, with `Offset.iso`;
* `Duration`: a signed number of days and a part of a day, with `Duration.text`.
-/

namespace Polystore.Calendar

open Polystore.Number

/-- A time of day. -/
structure Clock where
  hour : Nat
  minute : Nat
  second : Nat
  microsecond : Nat
deriving DecidableEq, Repr, Inhabited

namespace Clock

/-- Whether the numbers name a time of day. -/
def isValid (t : Clock) : Bool :=
  t.hour < 24 && t.minute < 60 && t.second < 60 && t.microsecond < 1000000

/-- The text of the part of a second, empty if there is none. -/
def fraction (microsecond : Nat) : List Char :=
  if microsecond = 0 then [] else '.' :: padded 6 microsecond

/-- The text `hour:minute:second`, with microseconds if there are any. -/
def iso (t : Clock) : List Char :=
  padded 2 t.hour ++ ':' :: (padded 2 t.minute ++ ':' :: (padded 2 t.second
    ++ fraction t.microsecond))

def toMicroseconds (t : Clock) : Nat :=
  ((t.hour * 60 + t.minute) * 60 + t.second) * 1000000 + t.microsecond

/-- The time at a number of microseconds since midnight. -/
def ofMicroseconds (n : Nat) : Clock :=
  let s := n / 1000000
  ⟨s / 3600, s / 60 % 60, s % 60, n % 1000000⟩

end Clock

/-- A signed distance in microseconds. -/
abbrev Offset := Int

/-- The text of an offset: sign, hours and minutes, and what is below a minute if not zero. -/
def Offset.iso (o : Offset) : List Char :=
  let t := Clock.ofMicroseconds o.natAbs
  let sign := if o < 0 then '-' else '+'
  let hours := padded 2 (o.natAbs / 3600000000)
  let rest :=
    if t.second = 0 ∧ t.microsecond = 0 then []
    else ':' :: (padded 2 t.second ++ Clock.fraction t.microsecond)
  sign :: (hours ++ ':' :: (padded 2 t.minute ++ rest))

/-- A span of time: days of either sign, and seconds and microseconds within a day. -/
structure Duration where
  days : Int
  seconds : Nat
  microseconds : Nat
deriving DecidableEq, Repr, Inhabited

namespace Duration

/-- The span of a number of microseconds. -/
def ofMicroseconds (n : Int) : Duration :=
  let day : Int := 86400000000
  let rest := (n % day).toNat
  ⟨n / day, rest / 1000000, rest % 1000000⟩

def isZero (d : Duration) : Bool := d.days == 0 && d.seconds == 0 && d.microseconds == 0

/-- The text of a span: the days if there are any, then `hours:minutes:seconds`. -/
def text (d : Duration) : String :=
  let days :=
    if d.days = 0 then ""
    else integerText d.days ++ (if d.days.natAbs = 1 then " day, " else " days, ")
  days ++ String.ofList (decimalDigits (d.seconds / 3600) ++ ':' ::
    (padded 2 (d.seconds / 60 % 60) ++ ':' :: (padded 2 (d.seconds % 60)
      ++ Clock.fraction d.microseconds)))

/-- The span as an expression that builds it. -/
def expression (d : Duration) : String :=
  let part := fun (name : String) (n : Int) =>
    if n = 0 then [] else [name ++ "=" ++ integerText n]
  let parts := part "days" d.days ++ part "seconds" d.seconds
    ++ part "microseconds" d.microseconds
  "datetime.timedelta(" ++ (if parts.isEmpty then "0" else ", ".intercalate parts) ++ ")"

end Duration

end Polystore.Calendar
