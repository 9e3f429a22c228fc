import Polystore.Proofs.Toml.Flaws

/-!
# Texts are read to their end

The readers count down from an amount of fuel that the length of the text gives. None of them ever
runs out: with more fuel each one does the same, since what it leaves for the next one is shorter.
So brackets are followed as deep as a text has them, and a text that is no document is none for any
amount of fuel.

* `skipLines?_succ`, `readKey?_succ`: blanks and keys;
* `values_succ`: values, by induction on the fuel of all four readers;
* `readLines_succ`: lines;
* `Toml.Reads`, **`reads_iff`**: a whole text.
-/

namespace Polystore.Toml

open Text

variable {α β : Type} {cs rest : List Char} {fuel : Nat}

section

variable {P : α → Prop} {x : Except Flaw α} {f g : α → Except Flaw β}

theorem Accounts.bind_congr (hx : Accounts cs P x) (h : ∀ a, P a → f a = g a) :
    x >>= f = x >>= g := by
  cases hx with
  | ok ha => exact h _ ha
  | form => rfl
  | digits _ => rfl

theorem expect_bind_congr {r : Option α} (h : ∀ a ∈ r, f a = g a) :
    expect r >>= f = expect r >>= g := by
  cases r with
  | none => rfl
  | some a => exact h a rfl

end

/-! ## Blanks and keys -/

theorem length_of_mem_skipComment? (h : rest ∈ skipComment? ('#' :: cs)) :
    rest.length ≤ cs.length := by
  obtain ⟨-, h⟩ := Option.ite_none_left_eq_some.mp h
  exact Option.some.inj h ▸ (List.dropWhile_suffix _).length_le

theorem skipLines?_succ (h : cs.length ≤ fuel) : skipLines? (fuel + 1) cs = skipLines? fuel cs := by
  induction fuel generalizing cs with
  | zero =>
    cases List.length_eq_zero_iff.mp (Nat.le_zero.mp h)
    rfl
  | succ fuel ih =>
    have hwide := (List.dropWhile_suffix (l := cs) isWide).length_le
    unfold skipLines?
    generalize List.dropWhile isWide cs = wide at hwide ⊢
    split
    · rename_i more heq
      cases heq
      rw [List.length_cons] at hwide
      refine Option.bind_congr fun rest hrest => ih ?_
      have := length_of_mem_skipComment? hrest
      omega
    · rename_i hplain
      split
      · exact (hplain _ _ rfl rfl).elim
      · rfl

theorem readKey?_succ (h : cs.length ≤ fuel) : readKey? (fuel + 1) cs = readKey? fuel cs := by
  induction fuel generalizing cs with
  | zero =>
    cases List.length_eq_zero_iff.mp (Nat.le_zero.mp h)
    rfl
  | succ fuel ih =>
    unfold readKey?
    refine Option.bind_congr ?_
    rintro ⟨part, rest⟩ hpart
    have hrest : rest.length ≤ cs.length := (leaves_keyPart cs _ hpart).length_le
    have hgap := (skipGap_suffix rest).length_le
    dsimp only
    split
    · rename_i more heq
      rw [heq, List.length_cons] at hgap
      have hmore := (skipGap_suffix more).length_le
      rw [ih (by omega)]
    · rfl

/-! ## Values -/

section

variable
  (ihValue : ∀ cs, 2 * cs.length + 1 ≤ fuel → readValue (fuel + 1) cs = readValue fuel cs)
  (ihItems : ∀ cs, 2 * cs.length + 2 ≤ fuel → readItems (fuel + 1) cs = readItems fuel cs)
  (ihPair : ∀ cs, 2 * cs.length + 1 ≤ fuel → readPair (fuel + 1) cs = readPair fuel cs)
  (ihPairs : ∀ fields marks cs, 2 * cs.length + 2 ≤ fuel →
    readPairs (fuel + 1) fields marks cs = readPairs fuel fields marks cs)

include ihItems ihPairs in
theorem readValue_succ (h : 2 * cs.length + 1 ≤ fuel + 1) :
    readValue (fuel + 1 + 1) cs = readValue (fuel + 1) cs := by
  unfold readValue
  split
  · rename_i rest
    rw [List.length_cons] at h
    rw [skipLines?_succ (by omega)]
    refine expect_bind_congr fun next hnext => ?_
    have hskip := (skips_lines fuel rest next hnext).length_le
    split
    · rfl
    · rw [ihItems _ (by omega)]
  · rename_i rest
    rw [List.length_cons] at h
    have hgap := (skipGap_suffix rest).length_le
    split
    · rfl
    · rw [ihPairs _ _ _ (by omega)]
  · rfl

include ihValue ihItems in
theorem readItems_succ (h : 2 * cs.length + 2 ≤ fuel + 1) :
    readItems (fuel + 1 + 1) cs = readItems (fuel + 1) cs := by
  unfold readItems
  rw [ihValue _ (by omega)]
  refine ((accounts_values fuel).1 cs).bind_congr ?_
  rintro ⟨item, rest⟩ hrest
  have hlength : rest.length ≤ cs.length := hrest.length_le
  dsimp only
  rw [skipLines?_succ (by omega)]
  refine expect_bind_congr fun next hnext => ?_
  have hskip := (skips_lines fuel rest next hnext).length_le
  split
  · rfl
  · rename_i more
    rw [List.length_cons] at hskip
    rw [skipLines?_succ (by omega)]
    refine expect_bind_congr fun last hlast => ?_
    have hmore := (skips_lines fuel more last hlast).length_le
    split
    · rfl
    · rw [ihItems _ (by omega)]
  · rfl

include ihValue in
theorem readPair_succ (h : 2 * cs.length + 1 ≤ fuel + 1) :
    readPair (fuel + 1 + 1) cs = readPair (fuel + 1) cs := by
  unfold readPair
  rw [readKey?_succ (by omega)]
  refine expect_bind_congr ?_
  rintro ⟨key, rest⟩ hkey
  have hlength : rest.length ≤ cs.length := (leaves_key fuel cs _ hkey).length_le
  dsimp only
  split
  · rename_i more
    rw [List.length_cons] at hlength
    have hmore := (skipGap_suffix more).length_le
    rw [ihValue _ (by omega)]
  · rfl

include ihPair ihPairs in
theorem readPairs_succ (fields : Fields) (marks : Marks) (h : 2 * cs.length + 2 ≤ fuel + 1) :
    readPairs (fuel + 1 + 1) fields marks cs = readPairs (fuel + 1) fields marks cs := by
  unfold readPairs
  rw [ihPair _ (by omega)]
  refine ((accounts_values fuel).2.2.1 cs).bind_congr ?_
  rintro ⟨⟨key, item⟩, rest⟩ hrest
  have hlength : rest.length ≤ cs.length := hrest.length_le
  have hgap := (skipGap_suffix rest).length_le
  dsimp only
  split
  · rfl
  · refine expect_bind_congr fun fields _ => ?_
    split
    · rfl
    · rename_i more heq
      rw [heq, List.length_cons] at hgap
      have hmore := (skipGap_suffix more).length_le
      exact ihPairs _ _ _ (by omega)
    · rfl

end

/-- The readers of values need no more fuel than twice the length of the text and two. -/
theorem values_succ (fuel : Nat) :
    (∀ cs, 2 * cs.length + 1 ≤ fuel → readValue (fuel + 1) cs = readValue fuel cs) ∧
    (∀ cs, 2 * cs.length + 2 ≤ fuel → readItems (fuel + 1) cs = readItems fuel cs) ∧
    (∀ cs, 2 * cs.length + 1 ≤ fuel → readPair (fuel + 1) cs = readPair fuel cs) ∧
    ∀ fields marks cs, 2 * cs.length + 2 ≤ fuel →
      readPairs (fuel + 1) fields marks cs = readPairs fuel fields marks cs := by
  induction fuel with
  | zero => refine ⟨?_, ?_, ?_, ?_⟩ <;> intros <;> omega
  | succ fuel ih =>
    -- A step down costs two: the item of a bracket is read with two less, but the bracket is gone.
    obtain ⟨ihValue, ihItems, ihPair, ihPairs⟩ := ih
    exact ⟨fun _ => readValue_succ ihItems ihPairs, fun _ => readItems_succ ihValue ihItems,
      fun _ => readPair_succ ihValue, fun _ _ _ => readPairs_succ ihPair ihPairs _ _⟩

/-! ## Documents -/

theorem readHeader_succ (d : Document) (h : cs.length ≤ fuel) :
    readHeader (fuel + 1) d cs = readHeader fuel d cs := by
  unfold readHeader
  split
  · rename_i more
    have hgap := (skipGap_suffix more).length_le
    simp only [List.length_cons] at h
    rw [readKey?_succ (by omega)]
  · rename_i more _
    have hgap := (skipGap_suffix more).length_le
    rw [List.length_cons] at h
    rw [readKey?_succ (by omega)]
  · rfl

theorem readStatement_succ (d : Document) (h : 2 * cs.length + 1 ≤ fuel) :
    readStatement (fuel + 1) d cs = readStatement fuel d cs := by
  unfold readStatement
  split
  · exact readHeader_succ d (by omega)
  · rw [(values_succ fuel).2.2.1 _ h]
  · rfl

theorem readLines_succ (d : Document) (h : 2 * cs.length + 2 ≤ fuel) :
    readLines (fuel + 1) d cs = readLines fuel d cs := by
  induction fuel generalizing d cs with
  | zero => omega
  | succ fuel ih =>
    have hgap := (skipGap_suffix cs).length_le
    unfold readLines
    rw [readStatement_succ d (by omega)]
    refine (accounts_statement fuel d (skipGap cs)).bind_congr ?_
    rintro ⟨d, rest⟩ hrest
    have hlength := ((skipGap_suffix rest).trans hrest).length_le
    refine expect_bind_congr fun next hnext => ?_
    have hskip := (skips_comment _ next hnext).length_le
    split
    · rfl
    · rename_i more
      rw [List.length_cons] at hskip
      exact ih d (by omega)
    · rfl

/-! ## Whole texts -/

/-- What reading a text leads to, however far its brackets are followed. -/
def Reads (source : List Char) (r : Except Flaw Fields) : Prop :=
  ∃ least, ∀ fuel, least ≤ fuel → readLines fuel .start (plainLines source) = r

theorem readLines_eq_read {source : List Char} (h : 2 * (plainLines source).length + 4 ≤ fuel) :
    readLines fuel .start (plainLines source) = read source := by
  induction h with
  | refl => rfl
  | step h ih =>
    rw [Nat.le_eq] at h
    exact (readLines_succ .start (by omega)).trans ih

/-- **The reader of a text follows it to its end.** -/
theorem reads_iff {source : List Char} {r : Except Flaw Fields} :
    Reads source r ↔ read source = r := by
  constructor
  · rintro ⟨least, h⟩
    rw [← readLines_eq_read (Nat.le_max_right least _)]
    exact h _ (Nat.le_max_left ..)
  · rintro rfl
    exact ⟨_, fun fuel h => readLines_eq_read h⟩

end Polystore.Toml
