import Polystore.Text.Utf8

/-!
# Bytes that are texts

A character is one byte, or a first byte that says how many others follow, and these. What is left
of the bits is its number. Bytes are a character only if its number needs as many bytes, is no
surrogate and is at most U+10FFFF. A sequence of bytes is a text if it is one character after
another.

* `IsContinuation`, `Shape`: bytes as they follow each other, and the number in them;
* `SpellsChar`, `SpellsText`: the bytes of a character and of a text;
* **`spellsChar_iff`**, **`spellsText_iff`**: they are what characters and texts are written as;
* **`decodeUtf8?_eq_some_iff_spellsText`**, `decodeUtf8?_eq_none_iff`: a text is read just from the
  bytes that spell it.
-/

namespace Polystore.Text

/-! ## Characters -/

/-- A byte that is not the first one of its character. -/
def IsContinuation (b : UInt8) : Prop := 0x80 ≤ b.toNat ∧ b.toNat < 0xC0

/-- Bytes in the shape of one character, the least number that needs so many of them, and the
number that is in them. -/
inductive Shape : Bytes → Nat → Nat → Prop
  | one {a : UInt8} : a.toNat < 0x80 → Shape [a] 0 a.toNat
  | two {a b : UInt8} : 0xC0 ≤ a.toNat → a.toNat < 0xE0 → IsContinuation b →
    Shape [a, b] 0x80 (a.toNat % 0x20 * 64 + b.toNat % 64)
  | three {a b c : UInt8} : 0xE0 ≤ a.toNat → a.toNat < 0xF0 → IsContinuation b →
    IsContinuation c →
    Shape [a, b, c] 0x800 ((a.toNat % 0x10 * 64 + b.toNat % 64) * 64 + c.toNat % 64)
  | four {a b c d : UInt8} : 0xF0 ≤ a.toNat → a.toNat < 0xF8 → IsContinuation b →
    IsContinuation c → IsContinuation d →
    Shape [a, b, c, d] 0x10000
      (((a.toNat % 8 * 64 + b.toNat % 64) * 64 + c.toNat % 64) * 64 + d.toNat % 64)

/-- The bytes of a character. A shape with fewer bytes would be too small for its number. -/
def SpellsChar (bytes : Bytes) (c : Char) : Prop :=
  ∃ least, Shape bytes least c.toNat ∧ least ≤ c.toNat

variable {bytes rest : Bytes} {c : Char} {cs : List Char}

/-- A byte is known by its number. -/
theorem eq_ofNat {b : UInt8} {n : Nat} (h : b.toNat = n) : b = UInt8.ofNat n := by
  rw [← h, UInt8.ofNat_toNat]

/-- The number in the bytes and their shape determine the bytes. -/
theorem SpellsChar.eq_utf8EncodeChar (h : SpellsChar bytes c) :
    bytes = String.utf8EncodeChar c := by
  obtain ⟨least, hshape, hleast⟩ := h
  have hdef : c.val.toNat = c.toNat := rfl
  unfold String.utf8EncodeChar
  simp only [hdef]
  generalize c.toNat = n at hshape hleast
  cases hshape with
  | one ha => rw [if_pos (by omega), UInt8.ofNat_toNat]
  | two ha ha' hb =>
    unfold IsContinuation at hb
    rw [if_neg (by omega), if_pos (by omega)]
    simp only [List.cons.injEq, and_true]
    refine ⟨eq_ofNat ?_, eq_ofNat ?_⟩ <;> omega
  | three ha ha' hb hc =>
    unfold IsContinuation at hb hc
    rw [if_neg (by omega), if_neg (by omega), if_pos (by omega)]
    simp only [List.cons.injEq, and_true]
    refine ⟨eq_ofNat ?_, eq_ofNat ?_, eq_ofNat ?_⟩ <;> omega
  | four ha ha' hb hc hd =>
    unfold IsContinuation at hb hc hd
    rw [if_neg (by omega), if_neg (by omega), if_neg (by omega)]
    simp only [List.cons.injEq, and_true]
    refine ⟨eq_ofNat ?_, eq_ofNat ?_, eq_ofNat ?_, eq_ofNat ?_⟩ <;> omega

/-- The bytes that a character is written as have its number, and no fewer would do. -/
theorem spellsChar_utf8EncodeChar (c : Char) : SpellsChar (String.utf8EncodeChar c) c := by
  have hdef : c.val.toNat = c.toNat := rfl
  have hbound : c.toNat < 0x110000 := by
    rcases c.valid with h | h <;> omega
  have hshape : ∀ {bytes : Bytes} {least m n : Nat}, Shape bytes least m → m = n → least ≤ n →
      ∃ least, Shape bytes least n ∧ least ≤ n := fun h hm hleast => ⟨_, hm ▸ h, hleast⟩
  unfold SpellsChar String.utf8EncodeChar
  simp only [hdef]
  generalize c.toNat = n at hbound
  by_cases h1 : n ≤ 0x7F
  · rw [if_pos h1]
    refine hshape (.one ?_) ?_ (Nat.zero_le n) <;> simp only [UInt8.toNat_ofNat'] <;> omega
  by_cases h2 : n ≤ 0x7FF
  · rw [if_neg h1, if_pos h2]
    refine hshape (.two ?_ ?_ ⟨?_, ?_⟩) ?_ (by omega) <;> simp only [UInt8.toNat_ofNat'] <;> omega
  by_cases h3 : n ≤ 0xFFFF
  · rw [if_neg h1, if_neg h2, if_pos h3]
    refine hshape (.three ?_ ?_ ⟨?_, ?_⟩ ⟨?_, ?_⟩) ?_ (by omega) <;>
      simp only [UInt8.toNat_ofNat'] <;> omega
  · rw [if_neg h1, if_neg h2, if_neg h3]
    refine hshape (.four ?_ ?_ ⟨?_, ?_⟩ ⟨?_, ?_⟩ ⟨?_, ?_⟩) ?_ (by omega) <;>
      simp only [UInt8.toNat_ofNat'] <;> omega

/-- **The bytes that spell a character are those that it is written as.** -/
theorem spellsChar_iff : SpellsChar bytes c ↔ bytes = String.utf8EncodeChar c :=
  ⟨SpellsChar.eq_utf8EncodeChar, fun h => h ▸ spellsChar_utf8EncodeChar c⟩

/-! ## Texts -/

/-- The bytes of a text: those of one character after another. -/
inductive SpellsText : Bytes → List Char → Prop
  | nil : SpellsText [] []
  | cons {bytes rest : Bytes} {c : Char} {cs : List Char} :
    SpellsChar bytes c → SpellsText rest cs → SpellsText (bytes ++ rest) (c :: cs)

theorem spellsText_iff_flatMap : SpellsText bytes cs ↔ bytes = cs.flatMap String.utf8EncodeChar := by
  constructor
  · intro h
    induction h with
    | nil => rfl
    | cons hc _ ih => rw [List.flatMap_cons, ← spellsChar_iff.mp hc, ← ih]
  · rintro rfl
    induction cs with
    | nil => exact .nil
    | cons c cs ih => exact .cons (spellsChar_utf8EncodeChar c) ih

theorem encodeUtf8_eq_flatMap (s : String) :
    encodeUtf8 s = s.toList.flatMap String.utf8EncodeChar := by
  rw [encodeUtf8, String.toUTF8_eq_toByteArray, ← String.utf8Encode_toList, List.utf8Encode,
    List.data_toByteArray]

/-- **The bytes that spell a text are those that it is written as.** -/
theorem spellsText_iff {s : String} : SpellsText bytes s.toList ↔ bytes = encodeUtf8 s := by
  rw [spellsText_iff_flatMap, encodeUtf8_eq_flatMap]

/-- **A text is read just from the bytes that spell it.** -/
theorem decodeUtf8?_eq_some_iff_spellsText {s : String} :
    decodeUtf8? bytes = some s ↔ SpellsText bytes s.toList :=
  decodeUtf8?_eq_some_iff.trans spellsText_iff.symm

/-- Bytes that spell no text are not read. -/
theorem decodeUtf8?_eq_none_iff : decodeUtf8? bytes = none ↔ ∀ cs, ¬SpellsText bytes cs := by
  constructor
  · intro hnone cs hcs
    have hsome : decodeUtf8? bytes = some (String.ofList cs) :=
      decodeUtf8?_eq_some_iff_spellsText.mpr (by rwa [String.toList_ofList])
    exact absurd (hnone.symm.trans hsome) (by simp)
  · intro h
    refine Option.eq_none_iff_forall_ne_some.mpr fun s hs => ?_
    exact h s.toList (decodeUtf8?_eq_some_iff_spellsText.mp hs)

/-- A surrogate, a form that is too long, a number above U+10FFFF, and a character that is cut
short. -/
example : [[0xED, 0xA0, 0x80], [0xC0, 0xAF], [0xF4, 0x90, 0x80, 0x80], [0xE2, 0x82]].map
    decodeUtf8? = [none, none, none, none] := by decide +kernel

end Polystore.Text
