import Polystore.Proofs.Json.Grammar
import Polystore.Proofs.Text.Trim

/-!
# Scanning numbers and strings

The reader takes the lexeme of a number as far as it goes, so what stands behind it must not go on
with it. A string ends by itself.

* **`Json.scanNumber?_append`**: the lexeme of a number is found with its kind;
* **`Json.readString_append`**: what a string spells is read.
-/

namespace Polystore.Json

open Number Text

variable {lexeme rest : List Char} {isFloat : Bool}

/-! ## Numbers -/

/-- What does not go on with a run of digits. -/
def StopsDigits (rest : List Char) : Prop := ∀ c ∈ rest.head?, isDigit c = false

/-- What does not go on with the lexeme of a number. -/
def StopsNumber (rest : List Char) : Prop :=
  ∀ c ∈ rest.head?, isDigit c = false ∧ c ≠ '.' ∧ c ≠ 'e' ∧ c ≠ 'E'

theorem StopsNumber.stopsDigits (h : StopsNumber rest) : StopsDigits rest := fun c hc => (h c hc).1

theorem AreDigits.isEmpty {ds : List Char} (h : AreDigits ds) : ds.isEmpty = false :=
  List.isEmpty_eq_false_iff.mpr h.1

/-- A number begins with a digit or with the minus sign. -/
theorem AreDigits.exists_cons {ds : List Char} (h : AreDigits ds) :
    ∃ d more, ds = d :: more ∧ isDigit d = true := by
  obtain ⟨d, more, rfl⟩ := List.exists_cons_of_ne_nil h.1
  exact ⟨d, more, rfl, h.2 d List.mem_cons_self⟩

theorem ne_of_isDigit {c d : Char} (hc : isDigit c = true) (hd : isDigit d = false) : c ≠ d := by
  rintro rfl
  rw [hc] at hd
  cases hd

theorem scanWhole?_append {whole : List Char} (h : IsWhole whole) (hrest : StopsDigits rest) :
    scanWhole? (whole ++ rest) = some (whole, rest) := by
  obtain ⟨hdigits, hzero⟩ := h
  obtain ⟨d, more, rfl, hd⟩ := hdigits.exists_cons
  by_cases h0 : d = '0'
  · subst h0
    rw [hzero rfl]
    rfl
  · rw [scanWhole?]
    · rw [List.takeWhile_append_of_stop hdigits.2 hrest,
        List.dropWhile_append_of_stop hdigits.2 hrest, hdigits.isEmpty]
      rfl
    · rintro _ ⟨⟩
      exact h0 rfl

theorem scanFraction_append {fraction : List Char} (h : IsFraction fraction)
    (hrest : StopsDigits rest) (hpoint : rest.head? ≠ some '.') :
    scanFraction (fraction ++ rest) = (fraction, rest) := by
  cases h with
  | absent =>
    rw [List.nil_append, scanFraction]
    rintro _ rfl
    exact hpoint rfl
  | @digits ds hdigits =>
    rw [List.cons_append, scanFraction, List.takeWhile_append_of_stop hdigits.2 hrest,
      List.dropWhile_append_of_stop hdigits.2 hrest, hdigits.isEmpty]
    rfl

theorem scanExponent_append {exponent : List Char} (h : IsExponent exponent)
    (hrest : StopsNumber rest) : scanExponent (exponent ++ rest) = (exponent, rest) := by
  cases h with
  | absent =>
    cases rest with
    | nil => rfl
    | cons c rest =>
      obtain ⟨-, -, he, hE⟩ := hrest c rfl
      simp [scanExponent, he, hE]
  | @digits e sign ds he hsign hdigits =>
    have htake := List.takeWhile_append_of_stop hdigits.2 hrest.stopsDigits
    have hdrop := List.dropWhile_append_of_stop hdigits.2 hrest.stopsDigits
    have hletter : (e == 'e' || e == 'E') = true := by simpa using he
    obtain ⟨d, more, hds, hd⟩ := hdigits.exists_cons
    rcases hsign with rfl | rfl | rfl
    · subst hds
      have hplus := ne_of_isDigit hd (d := '+') (by decide)
      have hminus := ne_of_isDigit hd (d := '-') (by decide)
      simp only [List.nil_append, List.cons_append] at htake hdrop ⊢
      rw [scanExponent]
      · simp [hletter, htake, hdrop]
      · rintro _ ⟨⟩
        exact hplus rfl
      · rintro _ ⟨⟩
        exact hminus rfl
    all_goals simp [scanExponent, hletter, htake, hdrop, hdigits.isEmpty]

/-- What stands behind the digits before the point goes on with none of them. -/
theorem stopsDigits_of_parts {fraction exponent : List Char} (hfraction : IsFraction fraction)
    (hexponent : IsExponent exponent) (hrest : StopsDigits rest) :
    StopsDigits (fraction ++ (exponent ++ rest)) := by
  intro c hc
  cases hfraction with
  | digits => cases hc; decide
  | absent =>
    cases hexponent with
    | absent => exact hrest c hc
    | digits he =>
      cases hc
      rcases he with rfl | rfl <;> decide

/-- What stands behind the fraction goes on with none of its digits, and is no point. -/
theorem stopsFraction_of_exponent {exponent : List Char} (hexponent : IsExponent exponent)
    (hrest : StopsNumber rest) :
    StopsDigits (exponent ++ rest) ∧ (exponent ++ rest).head? ≠ some '.' := by
  refine ⟨stopsDigits_of_parts .absent hexponent hrest.stopsDigits, fun hhead => ?_⟩
  cases hexponent with
  | absent => exact (hrest '.' hhead).2.1 rfl
  | digits he =>
    cases hhead
    simp at he

theorem IsMagnitude.exists_cons (h : IsMagnitude isFloat lexeme) :
    ∃ d more, lexeme = d :: more ∧ isDigit d = true := by
  obtain ⟨hwhole, -, -⟩ := h
  obtain ⟨d, more, rfl, hd⟩ := hwhole.1.exists_cons
  exact ⟨d, _, by rw [List.cons_append, List.cons_append], hd⟩

theorem scanParts?_append {whole fraction exponent : List Char} (hwhole : IsWhole whole)
    (hfraction : IsFraction fraction) (hexponent : IsExponent exponent) (hrest : StopsNumber rest) :
    scanWhole? (whole ++ (fraction ++ (exponent ++ rest))) =
        some (whole, fraction ++ (exponent ++ rest)) ∧
      scanFraction (fraction ++ (exponent ++ rest)) = (fraction, exponent ++ rest) ∧
      scanExponent (exponent ++ rest) = (exponent, rest) := by
  obtain ⟨hstop, hpoint⟩ := stopsFraction_of_exponent hexponent hrest
  exact ⟨scanWhole?_append hwhole (stopsDigits_of_parts hfraction hexponent hrest.stopsDigits),
    scanFraction_append hfraction hstop hpoint, scanExponent_append hexponent hrest⟩

/-- **The lexeme of a number is found with its kind.** -/
theorem scanNumber?_append (h : IsNumber isFloat lexeme) (hrest : StopsNumber rest) :
    scanNumber? (lexeme ++ rest) = some ((isFloat, lexeme), rest) := by
  cases h with
  | unsigned h =>
    obtain ⟨d, more, hcons, hd⟩ := h.exists_cons
    obtain @⟨whole, fraction, exponent, hwhole, hfraction, hexponent⟩ := h
    obtain ⟨hscan, hfractions, hexponents⟩ := scanParts?_append hwhole hfraction hexponent hrest
    rw [scanNumber?]
    · simp [hscan, hfractions, hexponents]
    · rw [hcons]
      rintro _ ⟨⟩
      exact ne_of_isDigit hd (by decide) rfl
  | negative h =>
    obtain @⟨whole, fraction, exponent, hwhole, hfraction, hexponent⟩ := h
    obtain ⟨hscan, hfractions, hexponents⟩ := scanParts?_append hwhole hfraction hexponent hrest
    rw [List.cons_append, scanNumber?]
    simp [hscan, hfractions, hexponents]

/-! ## Strings -/

section Strings

variable {c : Char} {hex more piece : List Char} {n opened place : Nat} {acc : List Char}

theorem unit?_append (h : IsUnit n hex) (more : List Char) :
    unit? (hex ++ more) = some (n, more) := by
  obtain ⟨hlength, hread⟩ := h
  match hex, hlength with
  | [h₁, h₂, h₃, h₄], _ => simp [unit?, hread]

/-- A character is no half of a surrogate pair. -/
theorem toNat_cases (c : Char) : c.toNat < 0xD800 ∨ 0xE000 ≤ c.toNat ∧ c.toNat < 0x110000 := by
  have hvalid : c.toNat < 0xD800 ∨ 0xDFFF < c.toNat ∧ c.toNat < 0x110000 := c.valid
  omega

theorem unicodeEscape_unit (h : IsUnit c.toNat hex) (hmore : more ≠ []) :
    unicodeEscape (hex ++ more) = .ok (c, 4) := by
  have hcases := toNat_cases c
  have hchar : unitChar c.toNat = c := by
    rw [unitChar, if_neg (by omega), Char.ofNat_toNat]
  rw [unicodeEscape, unit?_append h]
  split
  · next heq => cases heq
  · next heq =>
    cases heq
    exact absurd rfl hmore
  · next heq =>
    cases heq
    rw [if_neg (by omega), hchar]
  · next heq =>
    cases heq
    rw [hchar]

theorem unicodeEscape_pair {high low : Nat} {hex' : List Char}
    (hhigh : 0xD800 ≤ high ∧ high < 0xDC00) (hlow : 0xDC00 ≤ low ∧ low < 0xE000)
    (hc : c.toNat = 0x10000 + (high - 0xD800) * 0x400 + (low - 0xDC00)) (h : IsUnit high hex)
    (h' : IsUnit low hex') (hmore : more ≠ []) :
    unicodeEscape (hex ++ '\\' :: 'u' :: (hex' ++ more)) = .ok (c, 10) := by
  have hroom : 4 < (hex' ++ more).length := by
    have := List.length_pos_iff.mpr hmore
    rw [List.length_append, h'.1]
    omega
  have hpair : pairChar high low = c := by rw [pairChar, ← hc, Char.ofNat_toNat]
  simp only [unicodeEscape, unit?_append h, unit?_append h', hhigh, hlow, hroom, hpair, and_self,
    if_true]

theorem readString_unicode {count : Nat} (h : unicodeEscape more = .ok (c, count)) :
    readString opened ⟨place, '\\' :: 'u' :: more⟩ acc =
      readString opened ⟨place + 2 + count, more.drop count⟩ (c :: acc) := by
  rw [readString, h]

theorem escaped?_of_mem : ∀ p ∈ shortEscapes, p.1 ≠ 'u' ∧ escaped? p.1 = some p.2 := by decide

/-- A character is read from each of its pieces of text, as long as something follows. -/
theorem readString_piece (h : SpellsChar c piece) (hmore : more ≠ []) :
    readString opened ⟨place, piece ++ more⟩ acc =
      readString opened ⟨place + piece.length, more⟩ (c :: acc) := by
  cases h with
  | plain hcontrol hquote hslash =>
    rw [List.singleton_append, readString]
    · rw [if_neg (by omega)]
      rfl
    · exact hquote
    · exact fun h _ => hslash h
    · exact fun _ h _ => hslash h
    · exact fun _ _ h _ => hslash h
  | short h =>
    obtain ⟨hu, hescaped⟩ := escaped?_of_mem _ h
    rw [List.cons_append, List.singleton_append, readString, hescaped]
    · rfl
    · exact hu
  | @unit hex h =>
    have hplace : place + ('\\' :: 'u' :: hex).length = place + 2 + 4 := by
      simp [h.1, Nat.add_assoc]
    rw [List.cons_append, List.cons_append, readString_unicode (unicodeEscape_unit h hmore), hplace,
      List.drop_left' h.1]
  | @pair _ _ hex hex' hhigh hlow hc h h' =>
    have hplace : place + ('\\' :: 'u' :: (hex ++ '\\' :: 'u' :: hex')).length =
        place + 2 + 10 := by
      simp [h.1, h'.1, Nat.add_assoc]
    have hdrop : (hex ++ '\\' :: 'u' :: (hex' ++ more)).drop 10 = more := by
      have hlength : (hex ++ '\\' :: 'u' :: hex').length = 10 := by simp [h.1, h'.1]
      have hleft : ((hex ++ '\\' :: 'u' :: hex') ++ more).drop 10 = more :=
        List.drop_left' hlength
      simpa using hleft
    rw [List.cons_append, List.cons_append, List.append_assoc, List.cons_append, List.cons_append,
      readString_unicode (unicodeEscape_pair hhigh hlow hc h h' hmore), hplace, hdrop]

/-- What stands between the quotes is read up to the closing one. -/
theorem readString_pieces {cs text : List Char} (h : SpellsChars cs text) :
    readString opened ⟨place, text ++ '"' :: rest⟩ acc =
      .ok (String.ofList (acc.reverse ++ cs), ⟨place + text.length + 1, rest⟩) := by
  induction h generalizing place acc with
  | nil =>
    rw [List.nil_append, readString, List.append_nil]
    rfl
  | @cons c cs piece text hpiece _ ih =>
    rw [List.append_assoc, readString_piece hpiece (by simp), ih]
    simp [Nat.add_assoc]

/-- **What a string spells is read.** -/
theorem readString_append {s : String} {text : List Char} (h : SpellsChars s.toList text) :
    readString opened ⟨place, text ++ '"' :: rest⟩ [] =
      .ok (s, ⟨place + text.length + 1, rest⟩) := by
  rw [readString_pieces h, List.reverse_nil, List.nil_append, String.ofList_toList]

end Strings

end Polystore.Json
