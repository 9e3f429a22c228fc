import Polystore.Calendar.DateTime
import Polystore.Number.FloatText
import Polystore.Text.Pieces

/-!
# Stamps

A stamp is a point in time as a document writes it: a date, a time of day, an optional fraction
of a second and an optional offset. The point it stands for is without offset, at Greenwich.

* `splitOffset?`, `splitFraction`: cutting the offset and the fraction off the end;
* `readMoment?`: date and time of day, with one or two digits for all but the year;
* `DateTime.ofStamp?`.
-/

namespace Polystore.Calendar

open Text Number

/-- The character a number of places before the end. -/
def fromEnd? (cs : List Char) (n : Nat) : Option Char :=
  if n ≤ cs.length then cs[cs.length - n]? else none

/-- Whether a character is the sign of an offset. -/
def isSign (c : Char) : Bool := c == '+' || c == '-'

/-- Cut the offset off the end; a text without a `Z` at its end has to be six characters long. -/
def splitOffset? (cs : List Char) : Option (List Char × List Char) :=
  let cut := fun n => some (cs.take (cs.length - n), cs.drop (cs.length - n))
  if (fromEnd? cs 1).any (· == 'Z') then cut 1
  else if cs.length < 6 then none
  else if (fromEnd? cs 6).any isSign && (fromEnd? cs 3).any (· == ':') then cut 6
  else if (fromEnd? cs 5).any isSign then cut 5
  else if (fromEnd? cs 3).any isSign then cut 3
  else cut 0

def offsetSeconds? : List Char → Option Int
  | [] => some 0
  | ['Z'] => some 0
  | sign :: cs => do
    let (hours, minutes) ←
      match cs.length with
      | 5 => cutFirst? ':' cs
      | _ => some (cs.take 2, cs.drop 2)
    let h ← readInteger? hours
    let m ← if cs.length = 2 then some 0 else readInteger? minutes
    let seconds := h * 3600 + m * 60
    return if sign = '-' then -seconds else seconds

/-- Cut the fraction off at the last point. -/
def splitFraction (cs : List Char) : List Char × List Char :=
  let behind := (cs.reverse.takeWhile (· != '.')).reverse
  if behind.length = cs.length then (cs, [])
  else (cs.take (cs.length - behind.length - 1), '.' :: behind)

def fractionMicroseconds? (cs : List Char) : Option Nat :=
  if cs.isEmpty then some 0
  else do
    let n ← (← readLooseFloat? cs).times 1000000 |>.truncate?
    if 0 ≤ n ∧ n < 1000000 then some n.toNat else none

/-- One or two digits: the first of two is below a bound, and is an ASCII digit. A blank may stand
for a leading zero if `blank` holds. -/
def shortNumber? (bound : Nat) (blank : Bool) : List Char → Option Nat
  | [c] => digit? c
  | [c, d] =>
    if c = ' ' then (if blank then (asciiDigit? d).filter (0 < ·) else none)
    else do
      let tens ← asciiDigit? c
      let units ← digit? d
      if tens < bound then some (10 * tens + units) else none
  | _ => none

def yearNumber? (cs : List Char) : Option Nat := do
  let ds ← cs.mapM digit?
  if ds.length = 4 then some (ofDigits ds) else none

/-- Cut at the letter between date and time. -/
def cutAtT? (cs : List Char) : Option (List Char × List Char) :=
  cutFirst? 'T' (cs.map fun c => if c = 't' then 'T' else c)

/-- Date and time of day of a whole text. -/
def readMoment? (cs : List Char) : Option DateTime := do
  let (dayText, clockText) ← cutAtT? cs
  let (year, cs) ← cutFirst? '-' dayText
  let (month, day) ← cutFirst? '-' cs
  let (hour, cs) ← cutFirst? ':' clockText
  let (minute, second) ← cutFirst? ':' cs
  let date : Date := ⟨← yearNumber? year, ← shortNumber? 2 false month, ← shortNumber? 4 true day⟩
  let clock : Clock := ⟨← shortNumber? 3 false hour, ← shortNumber? 6 false minute,
    ← shortNumber? 6 false second, 0⟩
  if date.isValid && clock.isValid then some ⟨date, ⟨clock, none⟩⟩ else none

def DateTime.ofStamp? (cs : List Char) : Option DateTime := do
  let (cs, offset) ← splitOffset? cs
  let (cs, fraction) := splitFraction cs
  let microseconds ← fractionMicroseconds? fraction
  let d ← readMoment? cs
  d.shift? (microseconds - (← offsetSeconds? offset) * 1000000)

end Polystore.Calendar
