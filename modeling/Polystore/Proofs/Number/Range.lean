import Mathlib.Tactic.Ring
import Polystore.Number.Binary64

/-!
# The range of floats

The float that is nearest to an integer is above zero if the integer is, and it is finite just if
the integer stays below the middle between the largest float and the power of two behind it.

* `roundQuotient_pos`, `roundQuotient_eq_succ_iff`: where a quotient is rounded to;
* `Binary64.isPositive_ofInt`: a positive integer is a positive float;
* `Binary64.InRange`, **`Binary64.isFinite_ofInt_iff`**: the integers in the range of floats.
-/

namespace Polystore.Number

theorem roundQuotient_pos {num den : Nat} (hden : 0 < den) (h : den ≤ num) :
    0 < roundQuotient num den := by
  have hq : 0 < num / den := Nat.div_pos h hden
  unfold roundQuotient
  dsimp only
  split <;> omega

/-- Below the multiple behind an odd one, everything from the middle on is rounded up. -/
theorem roundQuotient_eq_succ_iff {num half k : Nat} (hodd : k % 2 = 1)
    (hnum : num < (k + 1) * (2 * half)) :
    roundQuotient num (2 * half) = k + 1 ↔ k * (2 * half) + half ≤ num := by
  have hq : num / (2 * half) < k + 1 :=
    (Nat.div_lt_iff_lt_mul (Nat.pos_of_mul_pos_left (Nat.zero_lt_of_lt hnum))).mpr hnum
  have hdiv : 2 * half * (num / (2 * half)) + num % (2 * half) = num := Nat.div_add_mod ..
  have hmod : num % (2 * half) < 2 * half :=
    Nat.mod_lt _ (Nat.pos_of_mul_pos_left (Nat.zero_lt_of_lt hnum))
  unfold roundQuotient
  dsimp only
  rcases Nat.lt_or_eq_of_le (Nat.le_of_lt_succ hq) with hlt | heq
  · have hbelow : 2 * half * (num / (2 * half)) + 2 * half ≤ k * (2 * half) := by
      rw [← Nat.mul_succ, Nat.mul_comm]
      exact Nat.mul_le_mul_right _ hlt
    split <;> omega
  · rw [heq, Nat.mul_comm] at hdiv
    simp only [heq, hodd, BEq.rfl, Bool.and_true, Bool.or_eq_true, decide_eq_true_eq,
      beq_iff_eq]
    split <;> omega

theorem log2_lt_iff_lt_twoPow {n k : Nat} (h : n ≠ 0) : Nat.log2 n < k ↔ n < twoPow k :=
  Nat.log2_lt h

/-- A power of two as a factor adds to the logarithm. -/
theorem log2_mul_twoPow {n : Nat} (h : n ≠ 0) (k : Nat) :
    Nat.log2 (n * twoPow k) = Nat.log2 n + k := by
  induction k with
  | zero => rw [show n * twoPow 0 = n from Nat.mul_one n, Nat.add_zero]
  | succ k ih =>
    have hne : n * twoPow k ≠ 0 := Nat.mul_ne_zero h (twoPow_pos k).ne'
    rw [twoPow_succ, ← Nat.mul_assoc, Nat.mul_comm, Nat.log2_two_mul hne, ih, Nat.add_assoc]

namespace Binary64

variable {negative : Bool} {mantissa scale whole : Nat}

theorem isPositive_ofMantissa (h : 0 < mantissa) :
    (ofMantissa false mantissa scale).isPositive = true := by
  unfold ofMantissa
  split <;> simp [isPositive, h.ne']

theorem isFinite_ofMantissa_iff :
    (ofMantissa negative mantissa scale).isFinite = true ↔ scale ≤ maxScale := by
  unfold ofMantissa
  split <;> simp_all [isFinite]

theorem isPositive_ofUnits (h : 0 < whole) : (ofUnits false whole 1).isPositive = true := by
  have hscale : 1 * twoPow (Nat.log2 (whole / 1) - 52) ≤ whole := by
    rw [Nat.div_one, Nat.one_mul]
    exact (Nat.pow_le_pow_right (by decide) (Nat.sub_le ..)).trans (Nat.log2_self_le h.ne')
  have hmantissa := roundQuotient_pos (Nat.mul_pos Nat.one_pos (twoPow_pos _)) hscale
  unfold ofUnits
  dsimp only
  split
  · exact isPositive_ofMantissa (twoPow_pos 52)
  · exact isPositive_ofMantissa hmantissa

theorem isPositive_ofInt {n : Int} (h : 0 < n) : (ofInt n).isPositive = true := by
  have hsign : decide (n < 0) = false := decide_eq_false (by omega)
  rw [ofInt, hsign, ofRatio]
  exact isPositive_ofUnits (Nat.mul_pos (by omega) (twoPow_pos _))

/-! ## Finite floats -/

theorem isFinite_ofUnits_iff : (ofUnits negative whole 1).isFinite = true ↔
    let scale := Nat.log2 whole - 52
    scale < maxScale ∨ scale = maxScale ∧ roundQuotient whole (twoPow scale) ≠ twoPow 53 := by
  unfold ofUnits
  simp only [Nat.div_one, Nat.one_mul]
  split <;> simp only [isFinite_ofMantissa_iff, *] <;> omega

/-- At the largest scale, the mantissa is rounded up to one more bit from the middle on. -/
theorem roundQuotient_maxScale {num : Nat} (h : num < twoPow 1024) :
    roundQuotient (num * twoPow smallest) (twoPow maxScale) = twoPow 53 ↔
      twoPow 1024 ≤ num + twoPow 970 := by
  have hden : twoPow maxScale = 2 * (twoPow 970 * twoPow smallest) := by
    rw [← twoPow_add, Nat.mul_comm, ← twoPow_succ, maxScale, smallest]
  have hall : twoPow 1024 = 18014398509481984 * twoPow 970 := by
    have h54 : twoPow 54 = 18014398509481984 := rfl
    rw [show 1024 = 54 + 970 from rfl, twoPow_add, h54]
  have hpos : 0 < twoPow smallest := twoPow_pos _
  rw [hden]
  rw [hall] at h ⊢
  generalize twoPow smallest = unit at hpos
  generalize twoPow 970 = half at h
  have hlt : num * unit < (9007199254740991 + 1) * (2 * (half * unit)) := by
    calc num * unit < 18014398509481984 * half * unit := Nat.mul_lt_mul_of_pos_right h hpos
      _ = (9007199254740991 + 1) * (2 * (half * unit)) := by ring
  have hmiddle : 9007199254740991 * (2 * (half * unit)) + half * unit
      = 18014398509481983 * half * unit := by ring
  refine (roundQuotient_eq_succ_iff (by decide) hlt).trans ?_
  rw [hmiddle, Nat.mul_le_mul_right_iff hpos]
  omega

/-- An integer that stays below the middle between the largest float and the power of two behind
it. -/
def InRange (n : Int) : Prop := n.natAbs + twoPow 970 < twoPow 1024

/-- **The float of an integer is finite just if the integer is in the range of floats.** -/
theorem isFinite_ofInt_iff {n : Int} : (ofInt n).isFinite = true ↔ InRange n := by
  rw [ofInt, ofRatio, isFinite_ofUnits_iff, InRange]
  generalize n.natAbs = num
  have hhalf : twoPow 1023 + twoPow 970 < twoPow 1024 := by
    have h53 : twoPow 53 = 9007199254740992 := rfl
    rw [twoPow_succ 1023, show 1023 = 53 + 970 from rfl, twoPow_add, h53]
    have hpos : 0 < twoPow 970 := twoPow_pos _
    omega
  rcases Nat.eq_zero_or_pos num with rfl | hpos
  · simp only [Nat.zero_mul, Nat.log2_zero, maxScale]
    omega
  have hscale : Nat.log2 (num * twoPow smallest) - 52 = Nat.log2 num + 1022 := by
    rw [log2_mul_twoPow hpos.ne', smallest]
    omega
  simp only [hscale]
  rcases Nat.lt_trichotomy (Nat.log2 num) 1023 with hlt | heq | hgt
  · have hnum : num < twoPow 1023 := (log2_lt_iff_lt_twoPow hpos.ne').mp hlt
    simp only [maxScale]
    omega
  · have hnum : num < twoPow 1024 := (log2_lt_iff_lt_twoPow hpos.ne').mp (by omega)
    have hmax : Nat.log2 num + 1022 = maxScale := by rw [heq, maxScale]
    simp only [hmax, Nat.lt_irrefl, true_and, false_or, ne_eq, roundQuotient_maxScale hnum]
    omega
  · have hnum : ¬num < twoPow 1024 := mt (log2_lt_iff_lt_twoPow hpos.ne').mpr (by omega)
    simp only [maxScale]
    omega

theorem ofInt?_of_inRange {n : Int} (h : InRange n) : ofInt? n = some (ofInt n) := by
  simp only [ofInt?, isFinite_ofInt_iff.mpr h, if_true]

theorem ofInt?_of_not_inRange {n : Int} (h : ¬InRange n) : ofInt? n = none := by
  simp [ofInt?, mt isFinite_ofInt_iff.mp h]

end Binary64

end Polystore.Number
