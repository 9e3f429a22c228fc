import Mathlib.Order.Basic
import Polystore.Proofs.Number.Digits
import Polystore.Proofs.Toml.Rest

/-!
# Why a text is no document

Most texts that are no documents are of the wrong form. The other flaw is about size: an integer of
more than 4300 digits. A text has it only if so many digits stand in a row.

* `Toml.LongRun`: what the flaw is about;
* `Toml.Accounts`: a result whose flaw is accounted for, with `Accounts.bind` and its kin;
* `accounts_values`, `accounts_lines`: the readers account for their flaws;
* **`longRun_of_digits`**: so does the reader of a text.
-/

namespace Polystore

namespace Toml

open Number Text

variable {α β : Type} {cs rest : List Char} {c : Char}

/-! ## What flaws are about -/

/-- More than 4300 digits in a row, with underscores in between. -/
def LongRun (cs : List Char) : Prop :=
  ∃ run, run <:+: cs ∧ (∀ c ∈ run, c.isDigit = true ∨ c = '_') ∧
    maxDigits < run.countP Char.isDigit

theorem LongRun.mono (h : LongRun rest) (hrest : rest <:+ cs) : LongRun cs := by
  obtain ⟨run, hrun, hall, hlong⟩ := h
  exact ⟨run, hrun.trans hrest.isInfix, hall, hlong⟩

/-- A result is accounted for: a value has a property, and a flaw of size is about a run of digits
in the text. -/
inductive Accounts (cs : List Char) (P : α → Prop) : Except Flaw α → Prop
  | ok {a : α} : P a → Accounts cs P (.ok a)
  | form : Accounts cs P (.error .form)
  | digits : LongRun cs → Accounts cs P (.error .digits)

/-- The result of a reader, whose rest is the end of the text. -/
abbrev AccountsFor (cs : List Char) (r : Except Flaw (α × List Char)) : Prop :=
  Accounts cs (fun p => p.2 <:+ cs) r

variable {P : α → Prop} {Q : β → Prop} {x : Except Flaw α} {f : α → Except Flaw β}

theorem Accounts.bind (hx : Accounts cs P x) (hf : ∀ a, P a → Accounts cs Q (f a)) :
    Accounts cs Q (x >>= f) := by
  cases hx with
  | ok ha => exact hf _ ha
  | form => exact .form
  | digits h => exact .digits h

/-- What accounts for a flaw in the rest does so in the text. -/
theorem Accounts.mono {P' : α → Prop} (h : rest <:+ cs) (hP : ∀ a, P' a → P a)
    (hx : Accounts rest P' x) : Accounts cs P x := by
  cases hx with
  | ok ha => exact .ok (hP _ ha)
  | form => exact .form
  | digits h' => exact .digits (h'.mono h)

theorem accounts_expect {r : Option α} (h : ∀ a ∈ r, P a) : Accounts cs P (expect r) := by
  cases r with
  | none => exact .form
  | some a => exact .ok (h a rfl)

/-- A reader that leaves a part of the text does so if it was given the end of it only. -/
theorem AccountsFor.behind {r : Except Flaw (α × List Char)} (h : rest <:+ cs)
    (hr : AccountsFor rest r) : AccountsFor cs r :=
  .mono h (fun _ hq => hq.trans h) hr

/-- A reader goes on with what the reader before it left. -/
theorem AccountsFor.andThen {r : Except Flaw (α × List Char)}
    {f : α × List Char → Except Flaw (β × List Char)} (hr : AccountsFor cs r)
    (hf : ∀ a rest, AccountsFor rest (f (a, rest))) : AccountsFor cs (r >>= f) :=
  Accounts.bind hr fun p hp => AccountsFor.behind hp (hf p.1 p.2)

theorem accountsFor_afterSkip {r : Option (List Char)}
    {f : List Char → Except Flaw (β × List Char)} (hr : Skips cs r)
    (hf : ∀ rest, AccountsFor rest (f rest)) : AccountsFor cs (expect r >>= f) :=
  (accounts_expect hr).bind fun rest h => AccountsFor.behind h (hf rest)

/-! ## Numbers -/

theorem isDigit_of_isDigitOf (h : isDigitOf 10 c = true) : c.isDigit = true := by
  simp only [isDigitOf, hexDigit?] at h
  have hbounds : 48 ≤ c.toNat ∧ c.toNat ≤ 57 := by
    split at h
    · assumption
    · split at h
      · simp at h; omega
      · split at h <;> simp at h; omega
  exact Char.isDigit_iff_toNat.mpr hbounds

/-- The digits in front of the point stand in front of the rest, with underscores in between. -/
theorem readWhole?_spec {digits : List Char} (h : readWhole? cs = some (digits, rest)) :
    digits ≠ [] ∧ (∀ c ∈ digits, c.isDigit = true) ∧
      ∃ run, run ++ rest = cs ∧ (∀ c ∈ run, c.isDigit = true ∨ c = '_') ∧ digits.Sublist run := by
  unfold readWhole? at h
  split at h
  · cases h
    exact ⟨by simp, List.forall_mem_singleton.mpr rfl, ['0'], rfl,
      List.forall_mem_singleton.mpr (.inl rfl), .refl _⟩
  · have hne : digits ≠ [] := readDigits?_ne_nil (by decide) h
    unfold readDigits? at h
    obtain ⟨hhead, h⟩ := Option.ite_none_right_eq_some.mp h
    obtain ⟨run, hrun, hall, hsub, hdigits⟩ := readRun_spec (isDigitOf 10) cs
    rw [Option.some.inj h] at hrun hsub hdigits
    exact ⟨hne, fun c hc => isDigit_of_isDigitOf (hdigits c hc), run, hrun,
      fun c hc => (hall c hc).imp_left isDigit_of_isDigitOf, hsub⟩

theorem accounts_numeral {sign digits fraction power : List Char}
    (hsign : sign = [] ∨ sign = ['-']) (hne : digits ≠ [])
    (hdigits : ∀ c ∈ digits, c.isDigit = true) (hlong : maxDigits < digits.length → LongRun cs) :
    Accounts cs (fun _ => True) (numeralValue sign digits fraction power) := by
  unfold numeralValue
  split
  · split
    · exact .ok trivial
    · rename_i hnone
      refine .digits (hlong (Nat.lt_of_not_le fun hlength => ?_))
      have := readInteger?_isSome hsign hne hdigits hlength
      simp [hnone] at this
  · cases readFloat? (sign ++ digits ++ fraction ++ power) with
    | none => exact .form
    | some x => exact .ok trivial

theorem readSign_spec (cs : List Char) :
    ((readSign cs).1 = [] ∨ (readSign cs).1 = ['-']) ∧ (readSign cs).2 <:+ cs := by
  fun_cases readSign cs <;> simp

theorem accounts_decimal (p : Except Flaw Value × List Char) (hp : p ∈ readDecimal? cs) :
    p.2 <:+ cs ∧ Accounts cs (fun _ => True) p.1 := by
  obtain ⟨⟨digits, rest⟩, hwhole, hp⟩ := Option.bind_eq_some_iff.mp hp
  cases hp
  obtain ⟨hsign, hcs⟩ := readSign_spec cs
  obtain ⟨hne, hdigits, run, hrun, hall, hsub⟩ := readWhole?_spec hwhole
  have hrest : rest <:+ cs := (List.suffix_append run rest).trans (hrun ▸ hcs)
  refine ⟨((readPower_suffix _).trans (readFraction_suffix rest)).trans hrest,
    accounts_numeral hsign hne hdigits fun hlong => ⟨run, ?_, hall, ?_⟩⟩
  · exact (hrun ▸ List.prefix_append run rest).isInfix.trans hcs.isInfix
  · calc maxDigits < digits.length := hlong
      _ = digits.countP Char.isDigit := (List.countP_eq_length.mpr hdigits).symm
      _ ≤ run.countP Char.isDigit := hsub.countP_le

/-! ## Values -/

theorem accounts_scalar (cs : List Char) : AccountsFor cs (readScalar cs) := by
  fun_cases readScalar cs with
  | case1 chars rest htext => exact .ok (leaves_text _ _ htext)
  | case2 _ rest htrue => exact .ok (skips_word _ _ _ htrue)
  | case3 _ rest hfalse => exact .ok (skips_word _ _ _ hfalse)
  | case4 _ _ _ v rest heq =>
    have hrest := (leaves_moment cs).orElse (leaves_marked cs) (v, rest) heq
    exact .ok hrest
  | case5 _ _ _ _ v rest heq =>
    obtain ⟨hrest, hv⟩ := accounts_decimal _ heq
    exact hv.bind fun _ _ => .ok hrest
  | case6 => exact (accounts_expect (leaves_named cs)).bind fun _ h => .ok h

section

variable {fuel : Nat}
  (ihValue : ∀ cs, AccountsFor cs (readValue fuel cs))
  (ihItems : ∀ cs, AccountsFor cs (readItems fuel cs))
  (ihPair : ∀ cs, AccountsFor cs (readPair fuel cs))
  (ihPairs : ∀ fields marks cs, AccountsFor cs (readPairs fuel fields marks cs))

include ihItems ihPairs in
theorem accounts_value_succ (cs : List Char) : AccountsFor cs (readValue (fuel + 1) cs) := by
  unfold readValue
  split
  · rename_i rest
    refine .behind (List.suffix_cons ..) (accountsFor_afterSkip (skips_lines fuel rest) ?_)
    intro rest
    split
    · exact .ok (List.suffix_cons ..)
    · exact (ihItems rest).andThen fun items rest => .ok (List.suffix_refl _)
  · rename_i rest
    refine .behind (List.suffix_cons ..) ?_
    split
    · rename_i more heq
      exact .ok ((List.suffix_cons ..).trans (heq ▸ skipGap_suffix rest))
    · refine .behind (skipGap_suffix rest) ?_
      exact (ihPairs [] .none _).andThen fun fields rest => .ok (List.suffix_refl _)
  · exact accounts_scalar cs

include ihValue ihItems in
theorem accounts_items_succ (cs : List Char) : AccountsFor cs (readItems (fuel + 1) cs) := by
  unfold readItems
  refine (ihValue cs).andThen fun item rest => ?_
  refine accountsFor_afterSkip (skips_lines fuel rest) fun rest => ?_
  split
  · exact .ok (List.suffix_cons ..)
  · rename_i more
    refine .behind (List.suffix_cons ..) (accountsFor_afterSkip (skips_lines fuel more) ?_)
    intro rest
    split
    · exact .ok (List.suffix_cons ..)
    · exact (ihItems rest).andThen fun items rest => .ok (List.suffix_refl _)
  · exact .form

include ihValue in
theorem accounts_pair_succ (cs : List Char) : AccountsFor cs (readPair (fuel + 1) cs) := by
  unfold readPair
  refine .andThen (accounts_expect (leaves_key fuel cs)) fun key rest => ?_
  dsimp only
  split
  · rename_i more
    refine .behind ((skipGap_suffix more).trans (List.suffix_cons ..)) ?_
    exact (ihValue _).andThen fun item rest => .ok (List.suffix_refl _)
  · exact .form

include ihPair ihPairs in
theorem accounts_pairs_succ (fields : Fields) (marks : Marks) (cs : List Char) :
    AccountsFor cs (readPairs (fuel + 1) fields marks cs) := by
  unfold readPairs
  refine (ihPair cs).andThen fun pair rest => ?_
  dsimp only
  split
  · exact .form
  · refine (accounts_expect fun _ _ => trivial).bind fun fields _ => ?_
    have hgap := skipGap_suffix rest
    split
    · rename_i more heq
      exact .ok ((List.suffix_cons ..).trans (heq ▸ hgap))
    · rename_i more heq
      have hmore := (skipGap_suffix more).trans (List.suffix_cons ',' more)
      exact AccountsFor.behind (hmore.trans (heq ▸ hgap)) (ihPairs _ _ _)
    · exact .form

end

/-- The readers of values account for their flaws. -/
theorem accounts_values (fuel : Nat) :
    (∀ cs, AccountsFor cs (readValue fuel cs)) ∧
    (∀ cs, AccountsFor cs (readItems fuel cs)) ∧
    (∀ cs, AccountsFor cs (readPair fuel cs)) ∧
    ∀ fields marks cs, AccountsFor cs (readPairs fuel fields marks cs) := by
  induction fuel with
  | zero =>
    refine ⟨fun _ => ?_, fun _ => ?_, fun _ => ?_, fun _ _ _ => ?_⟩
    · rw [readValue]; exact .form
    · rw [readItems]; exact .form
    · rw [readPair]; exact .form
    · rw [readPairs]; exact .form
  | succ fuel ih =>
    obtain ⟨ihValue, ihItems, ihPair, ihPairs⟩ := ih
    exact ⟨accounts_value_succ ihItems ihPairs, accounts_items_succ ihValue ihItems,
      accounts_pair_succ ihValue, accounts_pairs_succ ihPair ihPairs⟩

/-! ## Documents -/

theorem accounts_header (fuel : Nat) (d : Document) (cs : List Char) :
    AccountsFor cs (readHeader fuel d cs) := by
  unfold readHeader
  split
  · rename_i more
    have hmore : skipGap more <:+ '[' :: '[' :: more :=
      (skipGap_suffix more).trans (by simp [List.suffix_cons_iff])
    refine .behind hmore (.andThen (accounts_expect (leaves_key fuel _)) fun path rest => ?_)
    refine (accounts_expect fun _ _ => trivial).bind fun d _ => ?_
    split
    · exact .ok (by simp [List.suffix_cons_iff])
    · exact .form
  · rename_i more _
    have hmore : skipGap more <:+ '[' :: more := (skipGap_suffix more).trans (List.suffix_cons ..)
    refine .behind hmore (.andThen (accounts_expect (leaves_key fuel _)) fun path rest => ?_)
    refine (accounts_expect fun _ _ => trivial).bind fun d _ => ?_
    split
    · exact .ok (List.suffix_cons ..)
    · exact .form
  · exact .form

theorem accounts_statement (fuel : Nat) (d : Document) (cs : List Char) :
    AccountsFor cs (readStatement fuel d cs) := by
  unfold readStatement
  split
  · exact accounts_header ..
  · split
    · refine ((accounts_values fuel).2.2.1 _).andThen fun pair rest => ?_
      exact (accounts_expect fun _ _ => trivial).bind fun d _ => .ok (List.suffix_refl _)
    · exact .ok (List.suffix_refl _)
  · exact .ok (List.suffix_refl _)

/-- The reader of lines accounts for the flaws of all of them. -/
theorem accounts_lines (fuel : Nat) (d : Document) (cs : List Char) :
    Accounts cs (fun _ => True) (readLines fuel d cs) := by
  induction fuel generalizing d cs with
  | zero => exact .form
  | succ fuel ih =>
    unfold readLines
    refine .mono (skipGap_suffix cs) (fun _ h => h) ?_
    refine (accounts_statement fuel d (skipGap cs)).bind fun p hp => ?_
    refine .mono ((skipGap_suffix p.2).trans hp) (fun _ h => h) ?_
    refine (accounts_expect (skips_comment (skipGap p.2))).bind fun rest hrest => ?_
    split
    · exact .ok trivial
    · rename_i more
      exact .mono ((List.suffix_cons ..).trans hrest) (fun _ h => h) (ih p.1 more)
    · exact .form

/-! ## Line ends -/

/-- What is in front of a text after its line ends are made plain, and has no line feed, is in front
of it before. -/
theorem prefix_of_plainLines {run : List Char} (hrun : '\n' ∉ run) (h : run <+: plainLines cs) :
    run <+: cs := by
  fun_induction plainLines cs generalizing run with
  | case1 rest ih =>
    rcases List.prefix_cons_iff.mp h with rfl | ⟨tail, rfl, -⟩
    · exact List.nil_prefix
    · exact absurd List.mem_cons_self hrun
  | case2 c rest _ ih =>
    rcases List.prefix_cons_iff.mp h with rfl | ⟨tail, rfl, htail⟩
    · exact List.nil_prefix
    · exact List.cons_prefix_cons.mpr
        ⟨rfl, ih (fun hmem => hrun (List.mem_cons_of_mem _ hmem)) htail⟩
  | case3 => exact h

theorem infix_of_plainLines {run : List Char} (hrun : '\n' ∉ run) (h : run <:+: plainLines cs) :
    run <:+: cs := by
  fun_induction plainLines cs with
  | case1 rest ih =>
    rcases List.infix_cons_iff.mp h with hfront | hbehind
    · rcases List.prefix_cons_iff.mp hfront with rfl | ⟨tail, rfl, -⟩
      · exact List.nil_infix
      · exact absurd List.mem_cons_self hrun
    · exact (ih hbehind).trans (List.suffix_cons_iff.mpr (.inr (List.suffix_cons ..))).isInfix
  | case2 c rest hcr ih =>
    rcases List.infix_cons_iff.mp h with hfront | hbehind
    · have hplain : plainLines (c :: rest) = c :: plainLines rest := plainLines.eq_2 c rest hcr
      exact (prefix_of_plainLines hrun (hplain ▸ hfront)).isInfix
    · exact (ih hbehind).trans (List.suffix_cons ..).isInfix
  | case3 => exact h

theorem LongRun.of_plainLines (h : LongRun (plainLines cs)) : LongRun cs := by
  obtain ⟨run, hrun, hall, hlong⟩ := h
  refine ⟨run, infix_of_plainLines (fun hmem => ?_) hrun, hall, hlong⟩
  rcases hall _ hmem with h | h <;> revert h <;> decide

theorem accounts_read (source : List Char) : Accounts source (fun _ => True) (read source) := by
  have hlines := accounts_lines (2 * (plainLines source).length + 4) .start (plainLines source)
  unfold read
  generalize readLines (2 * (plainLines source).length + 4) .start (plainLines source) = r at hlines
  cases hlines with
  | ok h => exact .ok h
  | form => exact .form
  | digits h => exact .digits h.of_plainLines

/-- **Too many digits of an integer stand in the text.** -/
theorem longRun_of_digits {source : List Char} (h : read source = .error .digits) :
    LongRun source := by
  have haccounts := accounts_read source
  rw [h] at haccounts
  cases haccounts with
  | digits h => exact h

end Toml

end Polystore
