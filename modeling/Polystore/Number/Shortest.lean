import Polystore.Number.Binary64
import Polystore.Number.Integer

/-!
# The text of floating-point numbers

A float is written with the fewest decimal digits that read back as the same float, and among
those with the digits nearest to its value. The reals that read back form an interval around the
value, which holds its ends exactly if the mantissa is even. Decimal grids are tried from one
digit on; of a grid only the two neighbours of the value matter.

* `decimalExponent`: the place of the first digit of a quotient;
* `Interval`, `Interval.ofParts`, `Interval.hit?`: the interval on one grid and its best point;
* `shortest`: digits and exponent of the shortest text;
* `Binary64.text`: positional between `1e-4` and `1e16`, and with an exponent outside.
-/

namespace Polystore.Number

/-- The exponent of the first digit of the positive quotient `num / den`: the integer `e` with
`10 ^ e ≤ num / den < 10 ^ (e + 1)`. -/
def decimalExponent (num den : Nat) : Int :=
  if den ≤ num then (decimalDigits (num / den)).length - 1
  else -((decimalDigits ((den + num - 1) / num - 1)).length : Int)

/-- The reals that round to a float, on the grid of the multiples of some power of ten. All four
numbers have one common unit. -/
structure Interval where
  /-- The distance of neighbouring grid points. -/
  step : Nat
  low : Nat
  value : Nat
  high : Nat
  /-- Whether the ends belong to it. -/
  closed : Bool

namespace Interval

/-- The interval of `mantissa * 2 ^ scale / 2 ^ 1074` on the grid of the multiples of
`10 ^ exponent`. Below a power of two the next float is half as far as above. -/
def ofParts (mantissa scale : Nat) (exponent : Int) : Interval :=
  let below := if mantissa = twoPow 52 ∧ 0 < scale then 1 else 2
  let unit := twoPow scale * tenPow (-exponent).toNat
  { step := tenPow exponent.toNat * twoPow (Binary64.smallest + 2)
    low := (4 * mantissa - below) * unit
    value := 4 * mantissa * unit
    high := (4 * mantissa + 2) * unit
    closed := mantissa % 2 == 0 }

/-- Whether a multiple of the step lies in the interval. -/
def holds (i : Interval) (c : Nat) : Bool :=
  let x := c * i.step
  if i.closed then i.low ≤ x && x ≤ i.high else i.low < x && x < i.high

/-- The grid point in the interval that is nearest to the value, if there is one; of two equally
near ones the even one. -/
def hit? (i : Interval) : Option Nat :=
  let below := i.value / i.step
  let above := below + 1
  let down := i.value - below * i.step
  let up := above * i.step - i.value
  match i.holds below, i.holds above with
  | true, true => some (if down < up || (down == up && below % 2 == 0) then below else above)
  | true, false => some below
  | false, true => some above
  | false, false => none

end Interval

/-- The shortest decimal `c * 10 ^ k` that rounds to a positive float, from grids of the given
numbers of digits on; seventeen digits always suffice. -/
def shortestFrom (mantissa scale : Nat) (first : Int) : (digits count : Nat) → Nat × Int
  | _, 0 => (0, 0)
  | digits, count + 1 =>
    let k := first + 1 - digits
    match (Interval.ofParts mantissa scale k).hit? with
    | some c => (c, k)
    | none => shortestFrom mantissa scale first (digits + 1) count

/-- Digits and exponent of the shortest decimal that rounds to a positive float. -/
def shortest (mantissa scale : Nat) : Nat × Int :=
  let first := decimalExponent (mantissa * twoPow scale) (twoPow Binary64.smallest)
  shortestFrom mantissa scale first 1 17

/-- An exponent with its sign and at least two digits. -/
def exponentText (e : Int) : List Char :=
  (if e < 0 then '-' else '+') :: padded 2 e.natAbs

/-- The text of the decimal `c * 10 ^ k`: positional if its first digit lies between the fourth
place behind the point and the sixteenth before it, else with an exponent. -/
def decimalText (c : Nat) (k : Int) : List Char :=
  let digits := (decimalDigits c).reverse.dropWhile (· == '0') |>.reverse
  let point : Int := (decimalDigits c).length + k
  if -4 < point ∧ point ≤ 16 then
    if point ≤ 0 then '0' :: '.' :: (List.replicate (-point).toNat '0' ++ digits)
    else
      let whole := digits.take point.toNat
      let rest := digits.drop point.toNat
      whole ++ List.replicate (point.toNat - whole.length) '0'
        ++ '.' :: (if rest.isEmpty then ['0'] else rest)
  else
    digits.take 1 ++ (if digits.length ≤ 1 then [] else '.' :: digits.drop 1)
      ++ 'e' :: exponentText (point - 1)

def Binary64.text : Binary64 → String
  | .nan => "nan"
  | .infinite negative => if negative then "-inf" else "inf"
  | .finite negative m s =>
    let magnitude :=
      if m = 0 then ['0', '.', '0']
      else let (c, k) := shortest m s; decimalText c k
    String.ofList (if negative then '-' :: magnitude else magnitude)

end Polystore.Number
