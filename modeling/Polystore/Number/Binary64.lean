import Polystore.Number.Power

/-!
# Floating-point numbers

A finite number of the 64-bit binary format is a signed multiple of a power of two: the mantissa
times `2 ^ scale / 2 ^ 1074`, with a mantissa below `2 ^ 53`. Everything is computed in natural
numbers, so a result is the exact quotient rounded once.

* `Binary64`: not a number, an infinity, or a finite number;
* `roundQuotient`: the nearest natural number to a quotient, ties to even;
* `Binary64.ofUnits`, `ofRatio`, `ofInt`, `ofScientific`: the nearest float to an exact number;
* `Binary64.truncate?`, `isIntegral`, `isPositive`, `times`: towards the integers and back.
-/

namespace Polystore.Number

/-- A number of the 64-bit binary format. -/
inductive Binary64
  | nan
  | infinite (negative : Bool)
  /-- The number `mantissa * 2 ^ scale / 2 ^ 1074`, with a sign. -/
  | finite (negative : Bool) (mantissa scale : Nat)
deriving DecidableEq, Repr, Inhabited

/-- The natural number nearest to `num / den`; a tie goes to the even neighbour. -/
def roundQuotient (num den : Nat) : Nat :=
  let q := num / den
  let r := num % den
  if den < 2 * r || (den == 2 * r && q % 2 == 1) then q + 1 else q

namespace Binary64

/-- The exponent of the smallest positive number, negated. -/
def smallest : Nat := 1074

/-- The largest scale of a finite number. -/
def maxScale : Nat := 2045

def zero (negative : Bool) : Binary64 := .finite negative 0 0

/-- A mantissa at a scale; beyond the largest finite number lies infinity. -/
def ofMantissa (negative : Bool) (mantissa scale : Nat) : Binary64 :=
  if scale ≤ maxScale then .finite negative mantissa scale else .infinite negative

/-- The float nearest to `whole / den`, in units of the smallest positive number. The mantissa has
53 bits, as far as the quotient has so many; if it is rounded up to one more bit, it is halved. -/
def ofUnits (negative : Bool) (whole den : Nat) : Binary64 :=
  let scale := Nat.log2 (whole / den) - 52
  let mantissa := roundQuotient whole (den * twoPow scale)
  if mantissa = twoPow 53 then ofMantissa negative (twoPow 52) (scale + 1)
  else ofMantissa negative mantissa scale

/-- The float nearest to `num / den` with a sign; a tie goes to the even mantissa. -/
def ofRatio (negative : Bool) (num den : Nat) : Binary64 :=
  ofUnits negative (num * twoPow smallest) den

def ofInt (n : Int) : Binary64 := ofRatio (n < 0) n.natAbs 1

/-- The float nearest to `coefficient * 10 ^ exponent` with a sign. The first two cases only
spare the powers of ten that are far out of range. -/
def ofScientific (negative : Bool) (coefficient : Nat) (exponent : Int) : Binary64 :=
  let places : Int := (Nat.toDigits 10 coefficient).length + exponent
  if coefficient = 0 ∨ places < -330 then zero negative
  else if 310 < places then .infinite negative
  else if 0 ≤ exponent then ofRatio negative (coefficient * tenPow exponent.toNat) 1
  else ofRatio negative coefficient (tenPow (-exponent).toNat)

/-- Whether the number is neither infinite nor undefined. -/
def isFinite : Binary64 → Bool
  | .finite .. => true
  | _ => false

/-- Whether the number is zero, of either sign. -/
def isZero : Binary64 → Bool
  | .finite _ m _ => m == 0
  | _ => false

/-- Whether the number is greater than zero. -/
def isPositive : Binary64 → Bool
  | .finite negative m _ => !negative && m != 0
  | .infinite negative => !negative
  | .nan => false

def truncate? : Binary64 → Option Int
  | .finite negative m s =>
    let n : Int := (m * twoPow s / twoPow smallest : Nat)
    some (if negative then -n else n)
  | _ => none

/-- Whether the number is an integer. -/
def isIntegral : Binary64 → Bool
  | .finite _ m s => m * twoPow s % twoPow smallest == 0
  | _ => false

/-- The product with a natural number, rounded. -/
def times : Binary64 → Nat → Binary64
  | .finite negative m s, k => ofRatio negative (m * twoPow s * k) (twoPow smallest)
  | x, _ => x

/-- Whether two numbers are equal as numbers: the zeros are, and nothing equals what is not a
number. -/
def sameNumber : Binary64 → Binary64 → Bool
  | .finite n m s, .finite n' m' s' => m * twoPow s == m' * twoPow s' && (n == n' || m == 0)
  | .infinite n, .infinite n' => n == n'
  | _, _ => false

/-- An integer, as a float, if it does not lie beyond the finite numbers. -/
def ofInt? (n : Int) : Option Binary64 :=
  let x := ofInt n
  if x.isFinite then some x else none

theorem isFinite_of_ofInt? {n : Int} {x : Binary64} (h : ofInt? n = some x) :
    x.isFinite = true := by
  unfold ofInt? at h
  simp only [Option.ite_none_right_eq_some, Option.some.injEq] at h
  exact h.2 ▸ h.1

end Binary64

end Polystore.Number
