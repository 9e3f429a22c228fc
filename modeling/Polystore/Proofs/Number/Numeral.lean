import Polystore.Proofs.Json.NumberText
import Polystore.Proofs.Number.Digits

/-!
# Numerals

A numeral is what an integer is read from: digits of any script, with a single underscore between
two of them or none, and perhaps a sign in front. The text of an integer is one.

* `Number.IsDigitRun`, **`Number.digitRun?_eq_some_iff`**: which runs are read, by induction on the
  run, and what their digits are;
* `Number.Natural`, `Number.Numeral`, **`Number.readInteger?_eq_some_iff`**: numerals are what is
  read;
* **`Number.numeral_integerText`**: the text of an integer stands for it.
-/

namespace Polystore.Number

open Text

/-- A decimal digit of some script. -/
def IsDecimal (c : Char) : Prop := (digit? c).isSome = true

/-- Digits, with a single underscore between two of them or none. -/
structure IsDigitRun (cs : List Char) : Prop where
  begins : ∃ c ∈ cs.head?, IsDecimal c
  ends : ∃ c ∈ cs.getLast?, IsDecimal c
  among : ∀ c ∈ cs, IsDecimal c ∨ c = '_'
  single : ¬ ['_', '_'] <:+: cs

/-- The values of the digits. -/
def digitsIn (cs : List Char) : List Nat := cs.filterMap digit?

variable {c : Char} {cs : List Char} {ds : List Nat} {d n : Nat} {k : Int}

theorem digit?_underscore : digit? '_' = none := by decide

theorem not_isDecimal_underscore : ¬ IsDecimal '_' := by simp [IsDecimal, digit?_underscore]

theorem isDecimal_of_digit? (h : digit? c = some d) : IsDecimal c := by simp [IsDecimal, h]

/-! ## Runs of digits -/

theorem IsDigitRun.ne_nil (h : IsDigitRun cs) : cs ≠ [] := by
  rintro rfl
  obtain ⟨c, hc, -⟩ := h.begins
  cases hc

theorem IsDigitRun.isDecimal_head (h : IsDigitRun (c :: cs)) : IsDecimal c := by
  obtain ⟨_, ⟨⟩, hc⟩ := h.begins
  exact hc

theorem isDigitRun_singleton (hc : IsDecimal c) : IsDigitRun [c] where
  begins := ⟨c, rfl, hc⟩
  ends := ⟨c, rfl, hc⟩
  among := by simp [hc]
  single h := absurd h.length_le (by simp)

/-- A run goes on behind its first digit. -/
theorem isDigitRun_cons (hc : IsDecimal c) (hne : cs ≠ []) (hline : cs.head? ≠ some '_') :
    IsDigitRun (c :: cs) ↔ IsDigitRun cs := by
  obtain ⟨d, more, rfl⟩ := List.exists_cons_of_ne_nil hne
  have hd : d ≠ '_' := fun h => hline (congrArg some h)
  have hlast : (c :: d :: more).getLast? = (d :: more).getLast? := List.getLast?_cons_cons
  constructor
  · intro h
    refine ⟨⟨d, rfl, (h.among d (by simp)).resolve_right hd⟩, hlast ▸ h.ends,
      fun e he => h.among e (List.mem_cons_of_mem _ he), fun hpair => h.single ?_⟩
    exact hpair.trans (List.suffix_cons c _).isInfix
  · intro h
    refine ⟨⟨c, rfl, hc⟩, hlast ▸ h.ends, List.forall_mem_cons.mpr ⟨.inl hc, h.among⟩, ?_⟩
    rw [List.infix_cons_iff]
    rintro (hfront | hpair)
    · obtain ⟨rfl, -⟩ := List.cons_prefix_cons.mp hfront
      exact not_isDecimal_underscore hc
    · exact h.single hpair

/-- A run goes on behind an underscore. -/
theorem isDigitRun_cons_underscore (hc : IsDecimal c) :
    IsDigitRun (c :: '_' :: cs) ↔ IsDigitRun cs := by
  constructor
  · intro h
    cases cs with
    | nil =>
      obtain ⟨_, ⟨⟩, hlast⟩ := h.ends
      exact absurd hlast not_isDecimal_underscore
    | cons d more =>
      have hsuffix : d :: more <:+: c :: '_' :: d :: more := ⟨[c, '_'], [], by simp⟩
      have hd : d ≠ '_' := by
        rintro rfl
        exact h.single ⟨[c], more, rfl⟩
      have hends := h.ends
      rw [List.getLast?_cons_cons, List.getLast?_cons_cons] at hends
      exact ⟨⟨d, rfl, (h.among d (by simp)).resolve_right hd⟩, hends,
        fun e he => h.among e (hsuffix.subset he), fun hpair => h.single (hpair.trans hsuffix)⟩
  · intro h
    obtain ⟨d, more, rfl⟩ := List.exists_cons_of_ne_nil h.ne_nil
    have hends := h.ends
    rw [← List.getLast?_cons_cons (a := '_'), ← List.getLast?_cons_cons (a := c)] at hends
    refine ⟨⟨c, rfl, hc⟩, hends, ?_, ?_⟩
    · exact List.forall_mem_cons.mpr ⟨.inl hc, List.forall_mem_cons.mpr ⟨.inr rfl, h.among⟩⟩
    · rw [List.infix_cons_iff, List.infix_cons_iff]
      rintro (hfront | hfront | hpair)
      · obtain ⟨rfl, -⟩ := List.cons_prefix_cons.mp hfront
        exact not_isDecimal_underscore hc
      · obtain ⟨-, hfront⟩ := List.cons_prefix_cons.mp hfront
        obtain ⟨rfl, -⟩ := List.cons_prefix_cons.mp hfront
        exact not_isDecimal_underscore h.isDecimal_head
      · exact h.single hpair

/-- **Which runs are read**, and what their digits are. -/
theorem digitRun?_eq_some_iff : digitRun? cs = some ds ↔ IsDigitRun cs ∧ ds = digitsIn cs := by
  fun_induction digitRun? cs generalizing ds with
  | case1 => simpa using fun h : IsDigitRun [] => absurd rfl h.ne_nil
  | case2 c rest hc =>
    simpa using fun h : IsDigitRun (c :: rest) => absurd h.isDecimal_head (by simp [IsDecimal, hc])
  | case3 c d hd =>
    simp [isDigitRun_singleton (isDecimal_of_digit? hd), digitsIn, hd, eq_comm]
  | case4 c d hd more ih =>
    rw [isDigitRun_cons_underscore (isDecimal_of_digit? hd), Option.map_eq_some_iff]
    simp only [ih, digitsIn, List.filterMap_cons, hd, digit?_underscore]
    constructor
    · rintro ⟨_, ⟨h, rfl⟩, rfl⟩
      exact ⟨h, rfl⟩
    · rintro ⟨h, rfl⟩
      exact ⟨_, ⟨h, rfl⟩, rfl⟩
  | case5 c d hd rest hnil hline ih =>
    have hhead : rest.head? ≠ some '_' := by
      intro h
      obtain ⟨more, rfl⟩ := List.head?_eq_some_iff.mp h
      exact hline more rfl
    rw [isDigitRun_cons (isDecimal_of_digit? hd) hnil hhead, Option.map_eq_some_iff]
    simp only [ih, digitsIn, List.filterMap_cons, hd]
    constructor
    · rintro ⟨_, ⟨h, rfl⟩, rfl⟩
      exact ⟨h, rfl⟩
    · rintro ⟨h, rfl⟩
      exact ⟨_, ⟨h, rfl⟩, rfl⟩

/-! ## Numerals -/

/-- A natural number in at most `maxDigits` digits. -/
structure Natural (cs : List Char) (n : Nat) : Prop where
  run : IsDigitRun cs
  short : (digitsIn cs).length ≤ maxDigits
  value : n = ofDigits (digitsIn cs)

/-- An integer: a natural number with a sign or without one. -/
inductive Numeral : List Char → Int → Prop
  | unsigned {cs : List Char} {n : Nat} : Natural cs n → Numeral cs n
  | plus {cs : List Char} {n : Nat} : Natural cs n → Numeral ('+' :: cs) n
  | minus {cs : List Char} {n : Nat} : Natural cs n → Numeral ('-' :: cs) (-n)

theorem readNatural?_eq_some_iff : readNatural? cs = some n ↔ Natural cs n := by
  unfold readNatural?
  split
  · next ds hds =>
    obtain ⟨hrun, rfl⟩ := digitRun?_eq_some_iff.mp hds
    rw [Option.ite_none_right_eq_some, Option.some.injEq]
    exact ⟨fun ⟨hshort, h⟩ => ⟨hrun, hshort, h.symm⟩, fun h => ⟨h.short, h.value.symm⟩⟩
  · next hnone =>
    refine ⟨nofun, fun h => ?_⟩
    rw [digitRun?_eq_some_iff.mpr ⟨h.run, rfl⟩] at hnone
    cases hnone

theorem Natural.ne_sign (h : Natural (c :: cs) n) : c ≠ '+' ∧ c ≠ '-' := by
  refine ⟨?_, ?_⟩ <;>
  · rintro rfl
    exact absurd h.run.isDecimal_head (by simp [IsDecimal]; decide)

theorem map_readNatural?_eq_some_iff {f : Nat → Int} :
    (readNatural? cs).map f = some k ↔ ∃ n, Natural cs n ∧ f n = k := by
  simp only [Option.map_eq_some_iff, readNatural?_eq_some_iff]

/-- **An integer is read from its numerals**, with spaces around them. -/
theorem readInteger?_eq_some_iff : readInteger? cs = some k ↔ Numeral (trimSpace cs) k := by
  rw [readInteger?]
  generalize trimSpace cs = text
  split
  · next ds =>
    have hmap :
        (readNatural? ds).map (fun n : Nat => -(n : Int)) = some k ↔ Numeral ('-' :: ds) k := by
      rw [map_readNatural?_eq_some_iff]
      constructor
      · rintro ⟨n, hn, rfl⟩
        exact .minus hn
      · rintro (h | h | h)
        · exact absurd rfl h.ne_sign.2
        · exact ⟨_, h, rfl⟩
    rw [← hmap]
    cases readNatural? ds <;> rfl
  · next ds =>
    rw [map_readNatural?_eq_some_iff]
    constructor
    · rintro ⟨n, hn, rfl⟩
      exact .plus hn
    · rintro (h | h | h)
      · exact absurd rfl h.ne_sign.1
      · exact ⟨_, h, rfl⟩
  · next hminus hplus =>
    rw [map_readNatural?_eq_some_iff]
    constructor
    · rintro ⟨n, hn, rfl⟩
      exact .unsigned hn
    · rintro (h | h | h)
      · exact ⟨_, h, rfl⟩
      · exact absurd rfl (hplus _)
      · exact absurd rfl (hminus _)

/-! ## The text of an integer -/

theorem digit?_of_isDigit (h : c.isDigit = true) : digit? c = some (c.toNat - '0'.toNat) := by
  have hbounds : 48 ≤ c.toNat ∧ c.toNat ≤ 57 := Char.isDigit_iff_toNat.mp h
  rw [digit?, if_pos (by omega), asciiDigit?, if_pos hbounds]
  rfl

theorem isDigitRun_of_isDigit (hne : cs ≠ []) (h : ∀ c ∈ cs, c.isDigit = true) :
    IsDigitRun cs := by
  have hall : ∀ c ∈ cs, IsDecimal c := fun c hc => isDecimal_of_digit? (digit?_of_isDigit (h c hc))
  refine ⟨⟨cs.head hne, List.head_mem_head? hne, hall _ (List.head_mem hne)⟩,
    ⟨cs.getLast hne, List.getLast?_eq_some_getLast hne, hall _ (List.getLast_mem hne)⟩,
    fun c hc => .inl (hall c hc), fun hpair => ?_⟩
  exact not_isDecimal_underscore (hall '_' (hpair.subset (by simp)))

theorem digitsIn_of_isDigit (h : ∀ c ∈ cs, c.isDigit = true) :
    digitsIn cs = cs.map fun c => c.toNat - '0'.toNat := by
  rw [digitsIn, List.filterMap_congr fun c hc => digit?_of_isDigit (h c hc)]
  exact congrFun List.filterMap_eq_map cs

theorem natural_decimalDigits (h : (decimalDigits n).length ≤ maxDigits) :
    Natural (decimalDigits n) n := by
  have hdigits : ∀ c ∈ decimalDigits n, c.isDigit = true :=
    fun c hc => Nat.isDigit_of_mem_toDigits (by decide) (by decide) hc
  refine ⟨isDigitRun_of_isDigit Nat.toDigits_ne_nil hdigits, ?_, ?_⟩
  · rwa [digitsIn_of_isDigit hdigits, List.length_map]
  · rw [digitsIn_of_isDigit hdigits, ofDigits, List.foldl_map]
    exact Nat.ofDigitChars_ten_toDigits.symm

/-- **The text of an integer is a numeral for it.** -/
theorem numeral_integerText (h : (decimalDigits k.natAbs).length ≤ maxDigits) :
    Numeral (integerText k).toList k := by
  have hnatural := natural_decimalDigits h
  rw [toList_integerText]
  split_ifs with hk
  · have hvalue : k = -(k.natAbs : Int) := by omega
    conv_rhs => rw [hvalue]
    exact .minus hnatural
  · have hvalue : k = (k.natAbs : Int) := by omega
    conv_rhs => rw [hvalue]
    exact .unsigned hnatural

end Polystore.Number
