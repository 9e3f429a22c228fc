import Polystore.Number.FloatText

/-!
# Decimal numbers

A decimal is a signed coefficient times a power of ten, an infinity, or not a number. Equal
numbers may differ in the exponent, and their text shows it: `1.10` keeps its last zero.

* `Decimal`, `Decimal.read?`, `Decimal.text`;
* `Decimal.toFloat?`: the nearest float; a signaling value has none;
* `Decimal.to128?`: the decimal in the 128-bit format, which has 34 digits and exponents from
  `-6176` to `6111`, if it can be held without losing a digit.
-/

namespace Polystore.Number

open Polystore.Text

/-- A decimal number. -/
inductive Decimal
  | finite (negative : Bool) (coefficient : Nat) (exponent : Int)
  | infinite (negative : Bool)
  /-- Not a number, with a payload; the payload zero is none. -/
  | nan (negative signaling : Bool) (payload : Nat)
deriving DecidableEq, Repr, Inhabited

namespace Decimal

/-- The payload behind a name of what is not a number. -/
def readPayload? (cs : List Char) : Option Nat :=
  match splitDigits cs with
  | (ds, []) => some (ofDigits ds)
  | _ => none

/-- The infinity or undefined number of a lower-case name. -/
def readName? (negative : Bool) : List Char → Option Decimal
  | 's' :: 'n' :: 'a' :: 'n' :: payload => (readPayload? payload).map (.nan negative true)
  | 'n' :: 'a' :: 'n' :: payload => (readPayload? payload).map (.nan negative false)
  | name =>
    if name = "inf".toList ∨ name = "infinity".toList then some (.infinite negative) else none

/-- The decimal of a text without blanks; digits of any script are read. -/
def read? (cs : List Char) : Option Decimal :=
  let cs := cs.map plainDigit
  match readScientific? cs with
  | some d => some (.finite d.negative d.coefficient d.exponent)
  | none =>
    let (negative, name) := splitSign cs
    readName? negative (name.map Char.toLower)

def signedText (e : Int) : List Char :=
  (if e < 0 then '-' else '+') :: decimalDigits e.natAbs

/-- The text of a coefficient times a power of ten: without an exponent if the power is not
positive and at most five zeros follow the point, else with one digit before the point. -/
def magnitudeText (coefficient : Nat) (exponent : Int) : List Char :=
  let digits := decimalDigits coefficient
  let left : Int := exponent + digits.length
  let point : Int := if exponent ≤ 0 ∧ -6 < left then left else 1
  let body :=
    if point ≤ 0 then '0' :: '.' :: (List.replicate (-point).toNat '0' ++ digits)
    else if digits.length ≤ point then
      digits ++ List.replicate (point.toNat - digits.length) '0'
    else digits.take point.toNat ++ '.' :: digits.drop point.toNat
  body ++ if left = point then [] else 'E' :: signedText (left - point)

def text (d : Decimal) : String :=
  let (negative, magnitude) :=
    match d with
    | .finite negative c e => (negative, magnitudeText c e)
    | .infinite negative => (negative, "Infinity".toList)
    | .nan negative signaling payload =>
      (negative, (if signaling then "sNaN".toList else "NaN".toList)
        ++ if payload = 0 then [] else decimalDigits payload)
  String.ofList (if negative then '-' :: magnitude else magnitude)

def toFloat? : Decimal → Option Binary64
  | .finite negative c e => some (.ofScientific negative c e)
  | .infinite negative => some (.infinite negative)
  | .nan _ signaling _ => if signaling then none else some .nan

def isZero : Decimal → Bool
  | .finite _ c _ => c == 0
  | _ => false

def truncate? : Decimal → Option Int
  | .finite negative c e =>
    let n : Int := (if 0 ≤ e then c * tenPow e.toNat else c / tenPow (-e).toNat : Nat)
    some (if negative then -n else n)
  | _ => none

/-- Whether the decimal is an integer. -/
def isIntegral : Decimal → Bool
  | .finite _ c e => decide (0 ≤ e) || c % tenPow (-e).toNat == 0
  | _ => false

/-! ## The 128-bit format -/

def precision : Nat := 34

/-- The smallest exponent of the format. -/
def minExponent : Int := -6176

/-- The largest exponent of the format. -/
def maxExponent : Int := 6111

/-- A finite decimal in the 128-bit format, if no digit other than zero is lost. A zero keeps the
nearest exponent; a large exponent is lowered by zeros behind the coefficient. -/
def finite128? (negative : Bool) (coefficient : Nat) (exponent : Int) : Option Decimal :=
  if coefficient = 0 then some (.finite negative 0 (min (max exponent minExponent) maxExponent))
  else
    let length : Int := (decimalDigits coefficient).length
    let least := max (length + exponent - precision) minExponent
    if maxExponent < length + exponent - precision then none
    else if exponent < least then
      let unit := tenPow (least - exponent).toNat
      if coefficient % unit = 0 then some (.finite negative (coefficient / unit) least) else none
    else if maxExponent < exponent then
      some (.finite negative (coefficient * tenPow (exponent - maxExponent).toNat) maxExponent)
    else some (.finite negative coefficient exponent)

/-- A decimal in the 128-bit format; there are no payloads. -/
def to128? : Decimal → Option Decimal
  | .finite negative c e => finite128? negative c e
  | .infinite negative => some (.infinite negative)
  | .nan negative signaling payload =>
    if payload = 0 then some (.nan negative signaling 0) else none

end Decimal

end Polystore.Number
