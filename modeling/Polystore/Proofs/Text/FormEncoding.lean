import Mathlib.Data.List.Basic
import Polystore.Text.FormEncoding
import Polystore.Text.Hex

/-!
# Reading form encoding

A reader of form encoding takes plus signs for spaces, percent signs with two digits for bytes, and
all other characters for themselves. It reads every text from its form encoding, which holds none of
the marks that divide an address.

* `Text.readForm?`, `Text.readFormText?`: the reader;
* `Text.addressMarks`, **`Text.notMem_formEncoded`**: no mark occurs in form encoding;
* `Text.Escaped`, **`Text.escaped_of_readForm?`**: what is read has a percent sign only in front of
  two digits;
* `Text.readForm?_flatMap_formByte`, **`Text.readFormText?_formEncoded`**: every text is read back.
-/

namespace Polystore.Text

/-! ## The reader -/

/-- The bytes of a text in form encoding. -/
def readForm? : List Char → Option Bytes
  | [] => some []
  | '%' :: high :: low :: rest => do
    let h ← hexDigit? high
    let l ← hexDigit? low
    return UInt8.ofNat (16 * h + l) :: (← readForm? rest)
  | '%' :: _ => none
  | '+' :: rest => do return 0x20 :: (← readForm? rest)
  | c :: rest => do return encodeUtf8 (String.singleton c) ++ (← readForm? rest)

/-- The text that is written in form encoding. -/
def readFormText? (cs : List Char) : Option String := (readForm? cs).bind decodeUtf8?

/-- Every percent sign stands in front of two digits of base sixteen. -/
def Escaped (cs : List Char) : Prop := ∀ rest, '%' :: rest <:+ cs →
  ∃ h l more, rest = h :: l :: more ∧ (hexDigit? h).isSome = true ∧ (hexDigit? l).isSome = true

variable {c : Char} {cs rest : List Char} {bytes : Bytes} {b : UInt8}

theorem readForm?_plus : readForm? ('+' :: rest) = (readForm? rest).map (0x20 :: ·) := by
  rw [readForm?]
  cases readForm? rest <;> rfl

theorem readForm?_percent {high low : Char} {h l : Nat} (hhigh : hexDigit? high = some h)
    (hlow : hexDigit? low = some l) : readForm? ('%' :: high :: low :: rest) =
      (readForm? rest).map (UInt8.ofNat (16 * h + l) :: ·) := by
  rw [readForm?, hhigh, hlow]
  cases readForm? rest <;> rfl

theorem readForm?_cons (hpercent : c ≠ '%') (hplus : c ≠ '+') :
    readForm? (c :: rest) = (readForm? rest).map (encodeUtf8 (String.singleton c) ++ ·) := by
  rw [readForm?]
  · cases readForm? rest <;> rfl
  · exact fun _ _ _ h => absurd h hpercent
  · exact hpercent
  · exact hplus

theorem Escaped.cons (h : Escaped rest) (hc : c ≠ '%') : Escaped (c :: rest) := by
  intro rest' hsuffix
  rcases List.suffix_cons_iff.mp hsuffix with heq | hsuffix
  · exact absurd (List.cons.inj heq).1.symm hc
  · exact h rest' hsuffix

theorem ne_percent_of_hexDigit? (h : (hexDigit? c).isSome = true) : c ≠ '%' := by
  rintro rfl
  exact absurd h (by decide)

/-- **What is read is escaped.** -/
theorem escaped_of_readForm? (h : readForm? cs = some bytes) : Escaped cs := by
  fun_induction readForm? cs generalizing bytes with
  | case1 => exact fun rest hsuffix => nomatch List.suffix_nil.mp hsuffix
  | case2 high low rest ih =>
    obtain ⟨hd, hhigh, h⟩ := Option.bind_eq_some_iff.mp h
    obtain ⟨ld, hlow, h⟩ := Option.bind_eq_some_iff.mp h
    obtain ⟨more, hmore, -⟩ := Option.bind_eq_some_iff.mp h
    have hhigh' : (hexDigit? high).isSome = true := by rw [hhigh]; rfl
    have hlow' : (hexDigit? low).isSome = true := by rw [hlow]; rfl
    have hrest : Escaped (high :: low :: rest) :=
      ((ih hmore).cons (ne_percent_of_hexDigit? hlow')).cons (ne_percent_of_hexDigit? hhigh')
    intro rest' hsuffix
    rcases List.suffix_cons_iff.mp hsuffix with heq | hsuffix
    · exact ⟨high, low, rest, (List.cons.inj heq).2, hhigh', hlow'⟩
    · exact hrest rest' hsuffix
  | case3 rest hshort => cases h
  | case4 rest ih =>
    obtain ⟨more, hmore, -⟩ := Option.bind_eq_some_iff.mp h
    exact (ih hmore).cons (by decide)
  | case5 c rest hescape hpercent hplus ih =>
    obtain ⟨more, hmore, -⟩ := Option.bind_eq_some_iff.mp h
    exact (ih hmore).cons hpercent

/-! ## What is written -/

/-- The marks that divide an address. -/
def addressMarks : List Char := [':', '@', '/', '?', '#']

/-- Letters, digits and the four marks are in the ASCII range. -/
theorem toNat_lt_of_isUnreserved (h : isUnreserved c = true) : c.toNat < 128 := by
  have hdef : c.isAlphanum = ((decide (65 ≤ c.val ∧ c.val ≤ 90) ||
      (decide (97 ≤ c.val) && decide (c.val ≤ 122))) ||
        (decide (48 ≤ c.val) && decide (c.val ≤ 57))) := rfl
  simp only [isUnreserved, hdef, Bool.or_eq_true, Bool.and_eq_true, decide_eq_true_eq,
    UInt32.le_iff_toNat_le, UInt32.reduceToNat, beq_iff_eq] at h
  rcases h with (((h | rfl) | rfl) | rfl) | rfl
  · show c.val.toNat < 128
    omega
  all_goals decide

theorem ne_of_isUnreserved {x : Char} (h : isUnreserved c = true) (hx : isUnreserved x = false) :
    c ≠ x := by
  rintro rfl
  rw [h] at hx
  cases hx

theorem capitalHexDigit_spec {n : Nat} (h : n < 16) :
    hexDigit? (capitalHexDigit n) = some n ∧ isUnreserved (capitalHexDigit n) = true := by
  have hall : ∀ m : Fin 16, hexDigit? (capitalHexDigit m.val) = some m.val ∧
      isUnreserved (capitalHexDigit m.val) = true := by decide
  exact hall ⟨n, h⟩

/-- The characters that a byte is written with. -/
theorem mem_formByte (h : c ∈ formByte b) : isUnreserved c = true ∨ c = '+' ∨ c = '%' := by
  have hb : b.toNat < 256 := b.toNat_lt
  have hhigh := (capitalHexDigit_spec (n := b.toNat / 16) (by omega)).2
  have hlow := (capitalHexDigit_spec (n := b.toNat % 16) (by omega)).2
  simp only [formByte] at h
  split_ifs at h with hself hspace
  · rw [List.mem_singleton.mp h]
    exact .inl hself
  · exact .inr (.inl (List.mem_singleton.mp h))
  · simp only [List.mem_cons, List.not_mem_nil, or_false] at h
    rcases h with rfl | rfl | rfl
    · exact .inr (.inr rfl)
    · exact .inl hhigh
    · exact .inl hlow

/-- **The marks of an address do not occur in form encoding.** -/
theorem notMem_formEncoded (s : String) (h : c ∈ addressMarks) : c ∉ (formEncoded s).toList := by
  have hmarks : ∀ m ∈ addressMarks, isUnreserved m = false ∧ m ≠ '+' ∧ m ≠ '%' := by
    intro m hm
    simp only [addressMarks, List.mem_cons, List.not_mem_nil, or_false] at hm
    rcases hm with rfl | rfl | rfl | rfl | rfl <;> decide
  obtain ⟨hreserved, hplus, hpercent⟩ := hmarks c h
  rw [formEncoded, String.toList_ofList, List.mem_flatMap]
  rintro ⟨b, -, hc⟩
  rcases mem_formByte hc with hself | hc | hc
  · exact ne_of_isUnreserved hself hreserved rfl
  · exact hplus hc
  · exact hpercent hc

/-! ## Reading back -/

/-- A character of the ASCII range is one byte. -/
theorem encodeUtf8_singleton (h : c.toNat < 128) :
    encodeUtf8 (String.singleton c) = [UInt8.ofNat c.toNat] := by
  have hsize : c.utf8Size = 1 := Char.utf8Size_eq_one_iff.mpr (by
    rw [UInt32.le_iff_toNat_le]
    exact Nat.le_of_lt_succ h)
  rw [encodeUtf8, String.toUTF8_eq_toByteArray, String.toByteArray_singleton,
    List.utf8Encode_singleton, String.utf8EncodeChar_eq_singleton hsize]
  rfl

/-- A byte in front is read back. -/
theorem readForm?_formByte_append (b : UInt8) (rest : List Char) :
    readForm? (formByte b ++ rest) = (readForm? rest).map (b :: ·) := by
  have hb : b.toNat < 256 := b.toNat_lt
  have hchar : (Char.ofNat b.toNat).toNat = b.toNat := by
    rw [Char.ofNat, dif_pos (.inl (by omega))]
    rfl
  simp only [formByte]
  split_ifs with hself hspace
  · have hascii := toNat_lt_of_isUnreserved hself
    rw [List.singleton_append, readForm?_cons (ne_of_isUnreserved hself (by decide))
      (ne_of_isUnreserved hself (by decide)), encodeUtf8_singleton hascii, hchar, UInt8.ofNat_toNat]
    rfl
  · have hcode : b = 0x20 := by
      rw [← UInt8.toNat_inj, ← hchar, beq_iff_eq.mp hspace]
      rfl
    rw [List.singleton_append, readForm?_plus, hcode]
  · have hhigh := (capitalHexDigit_spec (n := b.toNat / 16) (by omega)).1
    have hlow := (capitalHexDigit_spec (n := b.toNat % 16) (by omega)).1
    have hdigits : 16 * (b.toNat / 16) + b.toNat % 16 = b.toNat := by omega
    rw [List.cons_append, List.cons_append, List.cons_append, List.nil_append,
      readForm?_percent hhigh hlow, hdigits, UInt8.ofNat_toNat]

theorem readForm?_flatMap_formByte (bytes : Bytes) :
    readForm? (bytes.flatMap formByte) = some bytes := by
  induction bytes with
  | nil => rfl
  | cons b bytes ih => rw [List.flatMap_cons, readForm?_formByte_append, ih, Option.map_some]

/-- **Every text is read from its form encoding.** -/
theorem readFormText?_formEncoded (s : String) : readFormText? (formEncoded s).toList = some s := by
  rw [readFormText?, formEncoded, String.toList_ofList, readForm?_flatMap_formByte,
    Option.bind_some, decodeUtf8?_eq_some_iff]

theorem escaped_formEncoded (s : String) : Escaped (formEncoded s).toList := by
  rw [formEncoded, String.toList_ofList]
  exact escaped_of_readForm? (readForm?_flatMap_formByte _)

end Polystore.Text
