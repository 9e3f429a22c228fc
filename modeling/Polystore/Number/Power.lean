/-!
# Powers of the two bases

The powers of two, by which floats are scaled, and the powers of ten, by which decimals are.

* `twoPow`, `tenPow`, with `twoPow_succ`, `twoPow_add`, `twoPow_pos` and `tenPow_pos`.
-/

namespace Polystore.Number

/-- The power of two with a given exponent. -/
def twoPow (n : Nat) : Nat := Nat.pow 2 n

/-- The power of ten with a given exponent. -/
def tenPow (n : Nat) : Nat := Nat.pow 10 n

theorem twoPow_succ (n : Nat) : twoPow (n + 1) = twoPow n * 2 := rfl

theorem twoPow_add (m n : Nat) : twoPow (m + n) = twoPow m * twoPow n := Nat.pow_add 2 m n

theorem twoPow_pos (n : Nat) : 0 < twoPow n := Nat.pow_pos (by decide)

theorem tenPow_pos (n : Nat) : 0 < tenPow n := Nat.pow_pos (by decide)

end Polystore.Number
