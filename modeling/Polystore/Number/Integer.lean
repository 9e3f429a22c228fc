import Polystore.Number.Power
import Polystore.Text.Blank
import Polystore.Text.Digit

/-!
# Decimal text of integers

An integer is written with its decimal digits and a minus sign in front of a negative one. An
integer of more than 4300 digits has no text, and no text of more than 4300 digits is read.

* `maxDigits`;
* `decimalDigits`, `integerText`, `integerText?`: writing, without and with the limit;
* `digitRun?`: digits of any script with single underscores between them;
* `readInteger?`: an optional sign and a run of digits, with spaces around them.
-/

namespace Polystore.Number

open Polystore.Text

/-- The longest run of digits that is written or read. -/
def maxDigits : Nat := 4300

/-- The decimal digits of a natural number. -/
def decimalDigits (n : Nat) : List Char := Nat.toDigits 10 n

/-- The text of an integer of any size. -/
def integerText (n : Int) : String :=
  String.ofList (if n < 0 then '-' :: decimalDigits n.natAbs else decimalDigits n.natAbs)

/-- The text of an integer, if it has at most `maxDigits` digits. -/
def integerText? (n : Int) : Option String :=
  if n.natAbs < tenPow maxDigits then some (integerText n) else none

/-- A number in base ten, filled with zeros to at least `width` digits. -/
def padded (width n : Nat) : List Char :=
  let digits := decimalDigits n
  List.replicate (width - digits.length) '0' ++ digits

/-- The values of a run of digits that may have single underscores between them; the run is not
empty. -/
def digitRun? : List Char → Option (List Nat)
  | [] => none
  | c :: rest =>
    match digit? c with
    | none => none
    | some d =>
      match rest with
      | [] => some [d]
      | '_' :: more => (digitRun? more).map (d :: ·)
      | more => (digitRun? more).map (d :: ·)

/-- The number whose decimal digits have the given values. -/
def ofDigits (ds : List Nat) : Nat := ds.foldl (fun acc d => 10 * acc + d) 0

/-- The natural number of a run of at most `maxDigits` digits. -/
def readNatural? (cs : List Char) : Option Nat :=
  match digitRun? cs with
  | some ds => if ds.length ≤ maxDigits then some (ofDigits ds) else none
  | none => none

/-- The integer of a text with spaces around it. -/
def readInteger? (cs : List Char) : Option Int :=
  match trimSpace cs with
  | '-' :: ds => (readNatural? ds).map fun n => -(n : Int)
  | '+' :: ds => (readNatural? ds).map Int.ofNat
  | ds => (readNatural? ds).map Int.ofNat

end Polystore.Number
