import Mathlib.Data.List.Basic
import Polystore.Json.Printer
import Polystore.Proofs.Json.Scanner

/-!
# The texts of numbers are JSON

An integer is written with the lexeme that stands for it. The text of a finite float is the lexeme
of a float: the digits that are found are not zero, so that the first of them may lead.

* `Number.areDigits_decimalDigits`, `Number.isWhole_decimalDigits`: decimal digits;
* **`Number.isNumber_integerText`**, **`Number.lexemeInt_integerText`**: integers;
* `Number.Interval.hit?_ne_zero`, `Number.shortest_cases`: the digits of a float;
* **`Number.Binary64.isNumber_text`**: floats.
-/

namespace Polystore.Number

open Json Text

variable {n c : Nat} {k : Int}

/-! ## Digits -/

theorem isDigit_iff {c : Char} : Json.isDigit c = true ↔ 48 ≤ c.toNat ∧ c.toNat ≤ 57 := by
  unfold Json.isDigit asciiDigit?
  split_ifs with h <;> simp [h]

theorem areDigits_decimalDigits (n : Nat) : AreDigits (decimalDigits n) := by
  refine ⟨Nat.toDigits_ne_nil, fun c hc => ?_⟩
  have hdigit : c.isDigit = true := Nat.isDigit_of_mem_toDigits (by decide) (by decide) hc
  rw [isDigit_iff]
  simpa [Char.isDigit, UInt32.le_iff_toNat_le] using hdigit

/-- The first digit of a number is a zero only if the number is. -/
theorem head?_decimalDigits (h : n ≠ 0) : (decimalDigits n).head? ≠ some '0' := by
  induction n using Nat.strongRecOn with
  | ind n ih =>
    rw [decimalDigits, Nat.toDigits_eq_if (by decide)]
    split_ifs with hlt
    · have : ∀ m : Fin 10, m.val ≠ 0 → m.val.digitChar ≠ '0' := by decide
      simpa using this ⟨n, hlt⟩ h
    · rw [List.head?_append_of_ne_nil _ Nat.toDigits_ne_nil]
      exact ih (n / 10) (by omega) (by omega)

theorem isWhole_decimalDigits (n : Nat) : IsWhole (decimalDigits n) := by
  refine ⟨areDigits_decimalDigits n, fun hhead => ?_⟩
  by_cases h : n = 0
  · subst h
    rfl
  · exact absurd hhead (head?_decimalDigits h)

/-! ## Integers -/

theorem toList_integerText (n : Int) : (integerText n).toList =
    (if n < 0 then ['-'] else []) ++ decimalDigits n.natAbs := by
  rw [integerText, String.toList_ofList]
  split_ifs <;> rfl

/-- **The text of an integer is a lexeme.** -/
theorem isNumber_integerText (n : Int) : IsNumber false (integerText n).toList := by
  have hmagnitude : IsMagnitude false (decimalDigits n.natAbs) := by
    simpa using IsMagnitude.mk (isWhole_decimalDigits n.natAbs) .absent .absent
  rw [toList_integerText]
  split_ifs
  · exact .negative hmagnitude
  · exact .unsigned hmagnitude

/-- **The lexeme of an integer stands for it.** -/
theorem lexemeInt_integerText (n : Int) : lexemeInt (integerText n).toList = n := by
  have hvalue : Nat.ofDigitChars 10 (decimalDigits n.natAbs) 0 = n.natAbs :=
    Nat.ofDigitChars_ten_toDigits
  rw [toList_integerText]
  split_ifs with h
  · rw [List.singleton_append, lexemeInt, hvalue]
    omega
  · rw [List.nil_append, lexemeInt, hvalue]
    · omega
    · intro ds hds
      have hminus := (areDigits_decimalDigits n.natAbs).2 '-' (by simp [hds])
      exact absurd hminus (by decide)

/-! ## Floats -/

/-- The digits of a number without the zeros at their end. -/
def significantDigits (c : Nat) : List Char :=
  ((decimalDigits c).reverse.dropWhile (· == '0')).reverse

theorem significantDigits_cases (h : c ≠ 0) : ∃ d more, significantDigits c = d :: more ∧ d ≠ '0' ∧
    ∀ e ∈ d :: more, Json.isDigit e = true := by
  obtain ⟨d, more, hdigits, -⟩ := (areDigits_decimalDigits c).exists_cons
  have hd : d ≠ '0' := by
    rintro rfl
    exact head?_decimalDigits h (by rw [hdigits]; rfl)
  have hsplit : significantDigits c = d :: (more.reverse.dropWhile (· == '0')).reverse := by
    rw [significantDigits, hdigits, List.reverse_cons, List.dropWhile_append]
    split_ifs with hempty
    · simp [hd, List.isEmpty_iff.mp hempty]
    · simp
  refine ⟨d, _, hsplit, hd, fun e he => (areDigits_decimalDigits c).2 e ?_⟩
  rw [← hsplit, significantDigits, List.mem_reverse] at he
  exact List.mem_reverse.mp (List.dropWhile_subset _ he)

theorem isWhole_of_ne {d : Char} {more : List Char} (hd : d ≠ '0')
    (h : ∀ e ∈ d :: more, Json.isDigit e = true) : IsWhole (d :: more) :=
  ⟨⟨List.cons_ne_nil _ _, h⟩, fun hhead => absurd (Option.some.inj hhead) hd⟩

theorem isDigit_zero : Json.isDigit '0' = true := by decide

theorem isExponent_exponentText (e : Int) : IsExponent ('e' :: exponentText e) := by
  have hdigits : AreDigits (padded 2 e.natAbs) := by
    obtain ⟨hne, hall⟩ := areDigits_decimalDigits e.natAbs
    refine ⟨List.append_ne_nil_of_right_ne_nil _ hne, fun c hc => ?_⟩
    rcases List.mem_append.mp hc with hc | hc
    · rw [List.eq_of_mem_replicate hc]
      exact isDigit_zero
    · exact hall c hc
  have hsign : [if e < 0 then '-' else '+'] = [] ∨ [if e < 0 then '-' else '+'] = ['+'] ∨
      [if e < 0 then '-' else '+'] = ['-'] := by
    split_ifs <;> simp
  exact .digits (.inl rfl) hsign hdigits

theorem isMagnitude_of_fraction {whole ds : List Char} (hwhole : IsWhole whole) (h : AreDigits ds) :
    IsMagnitude true (whole ++ '.' :: ds) := by
  simpa using IsMagnitude.mk hwhole (.digits h) .absent

theorem isMagnitude_of_exponent {whole fraction ds : List Char} {e : Char} (hwhole : IsWhole whole)
    (hfraction : IsFraction fraction) (h : IsExponent (e :: ds)) :
    IsMagnitude true (whole ++ fraction ++ e :: ds) := by
  simpa using IsMagnitude.mk hwhole hfraction h

theorem isWhole_zero : IsWhole ['0'] := ⟨⟨by simp, by simp [isDigit_zero]⟩, fun _ => rfl⟩

theorem isMagnitude_zero : IsMagnitude true ['0', '.', '0'] :=
  isMagnitude_of_fraction isWhole_zero isWhole_zero.1

/-- The text of a decimal is a float without a sign. -/
theorem isMagnitude_decimalText (h : c ≠ 0) (k : Int) : IsMagnitude true (decimalText c k) := by
  obtain ⟨d, more, hdigits, hd, hall⟩ := significantDigits_cases h
  have hzeros : ∀ m, ∀ e ∈ List.replicate m '0', Json.isDigit e = true := fun m e he => by
    rw [List.eq_of_mem_replicate he]
    exact isDigit_zero
  have hmore : ∀ e ∈ more, Json.isDigit e = true := fun e he => hall e (List.mem_cons_of_mem d he)
  unfold decimalText
  rw [← significantDigits, hdigits]
  dsimp only
  generalize ((decimalDigits c).length : Int) + k = point
  by_cases hplain : -4 < point ∧ point ≤ 16
  · rw [if_pos hplain]
    by_cases hsmall : point ≤ 0
    · -- the digits stand behind the point
      rw [if_pos hsmall]
      refine isMagnitude_of_fraction isWhole_zero ⟨by simp, fun e he => ?_⟩
      exact (List.mem_append.mp he).elim (hzeros _ e) (hall e)
    · -- the digits stand on both sides of the point, or all before it
      rw [if_neg hsmall]
      obtain ⟨p, hp⟩ : ∃ p, point.toNat = p + 1 := ⟨point.toNat - 1, by omega⟩
      rw [hp, List.take_succ_cons, List.drop_succ_cons, List.cons_append]
      have hwhole : ∀ e ∈ d ::
          (more.take p ++ List.replicate (p + 1 - (d :: more.take p).length) '0'),
          Json.isDigit e = true := by
        intro e he
        rcases List.mem_cons.mp he with rfl | he
        · exact hall e List.mem_cons_self
        · refine (List.mem_append.mp he).elim (fun he => ?_) (hzeros _ e)
          exact hmore e (List.mem_of_mem_take he)
      refine isMagnitude_of_fraction (isWhole_of_ne hd hwhole) ?_
      split_ifs with hrest
      · exact isWhole_zero.1
      · exact ⟨by simpa using hrest, fun e he => hmore e (List.mem_of_mem_drop he)⟩
  · rw [if_neg hplain]
    refine isMagnitude_of_exponent (isWhole_of_ne hd (by simpa using hall d List.mem_cons_self)) ?_
      (isExponent_exponentText _)
    split_ifs with hone
    · exact .absent
    · exact .digits ⟨by rintro rfl; simp at hone, hmore⟩

namespace Interval

variable {i : Interval}

theorem holds_of_hit? (h : i.hit? = some c) : i.holds c = true := by
  unfold hit? at h
  dsimp only at h
  split at h
  · split_ifs at h <;> cases h <;> assumption
  · cases h; assumption
  · cases h; assumption
  · cases h

/-- No interval around a positive float holds zero. -/
theorem hit?_ne_zero {mantissa scale : Nat} {exponent : Int} (hm : mantissa ≠ 0)
    (h : (ofParts mantissa scale exponent).hit? = some c) : c ≠ 0 := by
  rintro rfl
  have hlow : 0 < (ofParts mantissa scale exponent).low := by
    refine Nat.mul_pos ?_ (Nat.mul_pos (twoPow_pos _) (tenPow_pos _))
    split_ifs <;> omega
  have hholds := holds_of_hit? h
  rw [holds, Nat.zero_mul] at hholds
  split_ifs at hholds
  · simp only [Bool.and_eq_true, decide_eq_true_eq] at hholds
    omega
  · simp only [Bool.and_eq_true, decide_eq_true_eq] at hholds
    omega

end Interval

/-- The digits that are found are not zero, unless none are found. -/
theorem shortestFrom_cases {mantissa scale : Nat} {first : Int} (hm : mantissa ≠ 0)
    (digits count : Nat) : (shortestFrom mantissa scale first digits count).1 ≠ 0 ∨
      shortestFrom mantissa scale first digits count = (0, 0) := by
  induction count generalizing digits with
  | zero => exact .inr rfl
  | succ count ih =>
    rw [shortestFrom]
    split
    · next h => exact .inl (Interval.hit?_ne_zero hm h)
    · exact ih (digits + 1)

theorem isMagnitude_shortest {mantissa : Nat} (hm : mantissa ≠ 0) (scale : Nat) :
    IsMagnitude true (decimalText (shortest mantissa scale).1 (shortest mantissa scale).2) := by
  rcases shortestFrom_cases hm 1 17 with h | h
  · exact isMagnitude_decimalText h _
  · rw [shortest, h]
    exact isMagnitude_zero

/-- **The text of a finite float is a lexeme.** -/
theorem Binary64.isNumber_text {x : Binary64} (h : x.isFinite = true) :
    IsNumber true x.text.toList := by
  cases x with
  | nan => cases h
  | infinite => cases h
  | finite negative m s =>
    have hmagnitude : IsMagnitude true (if m = 0 then ['0', '.', '0'] else
        decimalText (shortest m s).1 (shortest m s).2) := by
      split_ifs with hm
      · exact isMagnitude_zero
      · exact isMagnitude_shortest hm s
    rw [Binary64.text, String.toList_ofList]
    cases negative with
    | true => exact .negative hmagnitude
    | false => exact .unsigned hmagnitude

end Polystore.Number
