import Polystore.Number.Integer

/-!
# Integers of digits

Digits of the ASCII range are an integer, with a minus sign in front or without, unless there are
too many of them.

* `digitRun?_of_isDigit`, `trimSpace_eq_self`;
* **`readInteger?_isSome`**.
-/

namespace Polystore.Number

open Text

variable {c : Char} {cs sign : List Char}

theorem digit?_isSome (h : c.isDigit = true) : (digit? c).isSome = true := by
  have hbounds : 48 ≤ c.toNat ∧ c.toNat ≤ 57 := Char.isDigit_iff_toNat.mp h
  rw [digit?, if_pos (by omega), asciiDigit?, if_pos hbounds]
  rfl

theorem isSpace_of_isDigit (h : c.isDigit = true) : isSpace c = false := by
  have hbounds : 48 ≤ c.toNat ∧ c.toNat ≤ 57 := Char.isDigit_iff_toNat.mp h
  simp only [isSpace, Bool.or_eq_false_iff, Bool.and_eq_false_iff, decide_eq_false_iff_not,
    beq_eq_false_iff_ne, ne_eq]
  omega

theorem trimSpace_eq_self (h : ∀ c ∈ cs, isSpace c = false) : trimSpace cs = cs := by
  have hdrop : ∀ {ds : List Char}, (∀ c ∈ ds, isSpace c = false) → ds.dropWhile isSpace = ds := by
    intro ds hds
    cases ds with
    | nil => rfl
    | cons d ds => rw [List.dropWhile_cons_of_neg (by simp [hds d List.mem_cons_self])]
  rw [trimSpace, hdrop h, hdrop fun c hc => h c (List.mem_reverse.mp hc), List.reverse_reverse]

/-- Digits are a run, each with a value. -/
theorem digitRun?_of_isDigit (hne : cs ≠ []) (h : ∀ c ∈ cs, c.isDigit = true) :
    ∃ ds, digitRun? cs = some ds ∧ ds.length = cs.length := by
  fun_induction digitRun? cs with
  | case1 => exact absurd rfl hne
  | case2 c rest hc =>
    have := digit?_isSome (h c List.mem_cons_self)
    simp [hc] at this
  | case3 c d hd => exact ⟨[d], rfl, rfl⟩
  | case4 c d hd more ih => exact absurd (h '_' (by simp)) (by decide)
  | case5 c d hd rest hnil hline ih =>
    obtain ⟨ds, hds, hlength⟩ := ih hnil fun c hc => h c (List.mem_cons_of_mem _ hc)
    exact ⟨d :: ds, by rw [hds]; rfl, by simp [hlength]⟩

theorem readNatural?_isSome (hne : cs ≠ []) (h : ∀ c ∈ cs, c.isDigit = true)
    (hlength : cs.length ≤ maxDigits) : (readNatural? cs).isSome = true := by
  obtain ⟨ds, hds, heq⟩ := digitRun?_of_isDigit hne h
  simp only [readNatural?, hds, heq, hlength, if_true, Option.isSome_some]

/-- **At most 4300 digits are an integer**, with a minus sign or without. -/
theorem readInteger?_isSome (hsign : sign = [] ∨ sign = ['-']) (hne : cs ≠ [])
    (h : ∀ c ∈ cs, c.isDigit = true) (hlength : cs.length ≤ maxDigits) :
    (readInteger? (sign ++ cs)).isSome = true := by
  obtain ⟨n, hn⟩ := Option.isSome_iff_exists.mp (readNatural?_isSome hne h hlength)
  have htrim : trimSpace (sign ++ cs) = sign ++ cs := by
    refine trimSpace_eq_self fun c hc => ?_
    rcases List.mem_append.mp hc with hc | hc
    · rcases hsign with rfl | rfl <;> simp_all
      decide
    · exact isSpace_of_isDigit (h c hc)
  rw [readInteger?, htrim]
  rcases hsign with rfl | rfl
  · have hhead : ∀ c rest, [] ++ cs = c :: rest → c.isDigit = true := by
      rintro c rest heq
      exact h c (by simp_all)
    split
    · exact absurd (hhead _ _ ‹_›) (by decide)
    · exact absurd (hhead _ _ ‹_›) (by decide)
    · simp [hn]
  · simp [hn]

end Polystore.Number
