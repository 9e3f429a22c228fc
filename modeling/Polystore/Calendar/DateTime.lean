import Polystore.Calendar.Clock
import Polystore.Calendar.Date
import Polystore.Text.Digit

/-!
# Points in time

A point in time is a date, a time of day and, if it is not local, an offset from universal time.

* `Time`: a time of day with an optional offset; `DateTime`: a date with such a time;
* `iso`, `text` and `expression`: the text with a `T`, with a blank, and as an expression;
* `Date.read?`, `Time.read?`, `DateTime.read?`: reading the first of these;
* `DateTime.shift?`, `DateTime.ofMilliseconds?`: moving a point, and milliseconds since 1970.
-/

namespace Polystore.Calendar

open Polystore.Number Polystore.Text

/-- A time of day that may have an offset. -/
structure Time where
  clock : Clock
  offset : Option Offset
deriving DecidableEq, Repr, Inhabited

/-- A date with a time of day. -/
structure DateTime where
  date : Date
  time : Time
deriving DecidableEq, Repr, Inhabited

/-- The numbers of an expression, without the given count of zeros at the end. -/
def dropZeros : (count : Nat) → List Nat → List Nat
  | 0, ns => ns
  | count + 1, ns => if ns.getLast? = some 0 then dropZeros count ns.dropLast else ns

def argumentText (ns : List Nat) : String :=
  ", ".intercalate (ns.map fun n => String.ofList (decimalDigits n))

/-- The offset as the last argument of an expression. -/
def offsetArgument : Option Offset → String
  | none => ""
  | some o =>
    ", tzinfo=datetime.timezone"
      ++ if o = 0 then ".utc" else "(" ++ (Duration.ofMicroseconds o).expression ++ ")"

/-- The date as an expression that builds it. -/
def Date.expression (d : Date) : String :=
  "datetime.date(" ++ argumentText [d.year, d.month, d.day] ++ ")"

namespace Time

/-- The text of the time and its offset. -/
def iso (t : Time) : List Char := t.clock.iso ++ (t.offset.map Offset.iso).getD []

/-- The time as an expression that builds it. -/
def expression (t : Time) : String :=
  let c := t.clock
  "datetime.time(" ++ argumentText (dropZeros 2 [c.hour, c.minute, c.second, c.microsecond])
    ++ offsetArgument t.offset ++ ")"

end Time

namespace DateTime

/-- Date and time with a separator between them. -/
def joined (separator : Char) (d : DateTime) : String :=
  String.ofList (d.date.iso ++ separator :: d.time.iso)

/-- The text with a `T` between date and time. -/
def iso (d : DateTime) : String := d.joined 'T'

/-- The text with a blank between date and time. -/
def text (d : DateTime) : String := d.joined ' '

/-- The point as an expression that builds it. -/
def expression (d : DateTime) : String :=
  let c := d.time.clock
  "datetime.datetime("
    ++ argumentText (dropZeros 2
      [d.date.year, d.date.month, d.date.day, c.hour, c.minute, c.second, c.microsecond])
    ++ offsetArgument d.time.offset ++ ")"

end DateTime

/-! ## Reading -/

/-- The number of exactly `count` ASCII digits in front, and the rest. -/
def takeNumber? (count : Nat) (cs : List Char) : Option (Nat × List Char) :=
  let front := cs.take count
  let values := front.filterMap asciiDigit?
  if front.length = count ∧ values.length = count then some (ofDigits values, cs.drop count)
  else none

def pass? (c : Char) : List Char → Option (List Char)
  | d :: rest => if d = c then some rest else none
  | [] => none

def takeDate? (cs : List Char) : Option (Date × List Char) := do
  let (year, cs) ← takeNumber? 4 cs
  let (month, cs) ← takeNumber? 2 (← pass? '-' cs)
  let (day, cs) ← takeNumber? 2 (← pass? '-' cs)
  let d : Date := ⟨year, month, day⟩
  if d.isValid then some (d, cs) else none

/-- The microseconds of the digits behind a point; digits from the seventh on are dropped. -/
def takeFraction? : List Char → Option (Nat × List Char)
  | '.' :: cs =>
    let isDigit := fun c => (asciiDigit? c).isSome
    let values := (cs.takeWhile isDigit).filterMap asciiDigit?
    if values.isEmpty then none
    else
      let six := values.take 6
      some (ofDigits (six ++ List.replicate (6 - six.length) 0), cs.dropWhile isDigit)
  | cs => some (0, cs)

/-- Hours and minutes, and seconds if there are any, in front of a text. -/
def takeClock? (cs : List Char) : Option (Clock × List Char) := do
  let (hour, cs) ← takeNumber? 2 cs
  let (minute, cs) ← takeNumber? 2 (← pass? ':' cs)
  match cs with
  | ':' :: cs =>
    let (second, cs) ← takeNumber? 2 cs
    let (microsecond, cs) ← takeFraction? cs
    return (⟨hour, minute, second, microsecond⟩, cs)
  | cs => return (⟨hour, minute, 0, 0⟩, cs)

/-- The offset of a whole text: none, `Z`, or a sign and a time. -/
def readOffset? : List Char → Option (Option Offset)
  | [] => some none
  | ['Z'] => some (some 0)
  | c :: cs =>
    match takeClock? cs with
    | some (t, []) =>
      if c = '+' then some (some t.toMicroseconds)
      else if c = '-' then some (some (-(t.toMicroseconds : Int)))
      else none
    | _ => none

def Date.read? (cs : List Char) : Option Date :=
  match takeDate? cs with
  | some (d, []) => some d
  | _ => none

def Time.read? (cs : List Char) : Option Time := do
  let (clock, cs) ← takeClock? cs
  let offset ← readOffset? cs
  if clock.isValid then some ⟨clock, offset⟩ else none

/-- The point in time of a whole text. -/
def DateTime.read? (cs : List Char) : Option DateTime := do
  let (date, cs) ← takeDate? cs
  match cs with
  | [] => return ⟨date, ⟨⟨0, 0, 0, 0⟩, none⟩⟩
  | _ :: cs => return ⟨date, ← Time.read? cs⟩

/-! ## Moving -/

namespace DateTime

/-- The point a number of microseconds later, if the calendar holds it. -/
def shift? (d : DateTime) (microseconds : Int) : Option DateTime := do
  let day : Int := 86400000000
  let total := (d.date.toDays : Int) * day + d.time.clock.toMicroseconds + microseconds
  let date ← Date.ofDays? (total / day)
  return ⟨date, ⟨Clock.ofMicroseconds (total % day).toNat, d.time.offset⟩⟩

def epoch : DateTime := ⟨⟨1970, 1, 1⟩, ⟨⟨0, 0, 0, 0⟩, none⟩⟩

/-- The local point a number of milliseconds after `epoch`. -/
def ofMilliseconds? (n : Int) : Option DateTime := epoch.shift? (n * 1000)

end DateTime

end Polystore.Calendar
