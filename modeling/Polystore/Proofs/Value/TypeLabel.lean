import Mathlib.Data.List.Forall2
import Mathlib.Logic.Relation
import Polystore.Proofs.Text.Pieces
import Polystore.Value.Normal

/-!
# How type labels are written

A type may be declared in many ways. What stands in parentheses, the case of letters and the blanks
between and around the words make no difference: the canonical label is the same, and so is every
value that is read under it.

* **`bareLabel_parenthesised`**: parameters are left out, whatever they are;
* **`words_dropModifiers`**: modifiers are taken out of each word of a label;
* `Respelled`, **`Respelled.words_upper`**: other ways to write a label have the same words;
* `canonicalChars_respelled`, `tidy_canonicalChars`: canonical labels;
* **`labels_select_alike`**: all that for labels and for the values read under them.
-/

namespace Polystore

open Text

variable {cs ds front back line p w w' : List Char} {c d : Char}

/-! ## Parameters -/

theorem dropParameters_of_unclosed (h : ')' ∉ line) : dropParameters line = line := by
  refine if_neg fun hrest => h ?_
  exact (List.dropWhile_suffix _).subset (List.contains_iff_mem.mp hrest)

theorem dropParameters_cons (hc : c ≠ '(') (line : List Char) :
    dropParameters (c :: line) = c :: dropParameters line := by
  have hpos : (c != '(') = true := by simpa using hc
  rw [dropParameters, dropParameters, List.takeWhile_cons, List.dropWhile_cons, if_pos hpos,
    if_pos hpos]
  split_ifs <;> rfl

/-- Between the parentheses of a line anything may stand, parentheses as well. -/
theorem dropParameters_parenthesised (p : List Char) (h : ')' ∉ back) :
    dropParameters ('(' :: (p ++ ')' :: back)) = back := by
  have hrun : ∀ c ∈ back.reverse, (c != ')') = true := by
    intro c hc
    rw [bne_iff_ne]
    rintro rfl
    exact h (List.mem_reverse.mp hc)
  have hreverse : ('(' :: (p ++ ')' :: back)).reverse =
      back.reverse ++ ')' :: (p.reverse ++ ['(']) := by
    simp
  have hstop : ∀ c ∈ (')' :: (p.reverse ++ ['('])).head?, (c != ')') = false := by
    rintro _ ⟨⟩
    rfl
  rw [dropParameters, List.dropWhile_cons_of_neg (by decide),
    List.takeWhile_cons_of_neg (by decide), if_pos (by simp), hreverse,
    List.takeWhile_append_of_stop hrun hstop, List.reverse_reverse, List.nil_append]

theorem bareLabel_of_unclosed (h : ')' ∉ cs) : bareLabel cs = cs := by
  have hpieces : (pieces '\n' cs).map dropParameters = pieces '\n' cs := by
    refine (List.map_congr_left fun piece hpiece => ?_).trans (List.map_id _)
    exact dropParameters_of_unclosed fun hmem => h (subset_of_mem_pieces hpiece hmem)
  rw [bareLabel, hpieces, join_pieces]

theorem bareLabel_line (h : '\n' ∉ line) : bareLabel line = dropParameters line := by
  rw [bareLabel, pieces_of_notMem h]
  rfl

theorem bareLabel_lines (h : '\n' ∉ line) (cs : List Char) :
    bareLabel (line ++ '\n' :: cs) = dropParameters line ++ '\n' :: bareLabel cs := by
  rw [bareLabel, pieces_line h, List.map_cons, join_cons (by simp [pieces_ne_nil])]
  rfl

theorem bareLabel_cons (hc : c ≠ '(') (cs : List Char) :
    bareLabel (c :: cs) = c :: bareLabel cs := by
  by_cases hfeed : c = '\n'
  · subst hfeed
    have hline : '\n' ∉ ([] : List Char) := List.not_mem_nil
    exact bareLabel_lines hline cs
  · obtain ⟨piece, rest, hcs, hcons⟩ := pieces_cons_of_ne hfeed cs
    rw [bareLabel, bareLabel, hcs, hcons, List.map_cons, List.map_cons, dropParameters_cons hc,
      join_cons_cons]

/-- Up to the first opening parenthesis a label stays as it is. -/
theorem bareLabel_append (h : '(' ∉ front) (cs : List Char) :
    bareLabel (front ++ cs) = front ++ bareLabel cs := by
  induction front with
  | nil => rfl
  | cons c front ih =>
    obtain ⟨hc, hfront⟩ := List.ne_and_not_mem_of_not_mem_cons h
    rw [List.cons_append, bareLabel_cons hc.symm, ih hfront, List.cons_append]

theorem bareLabel_of_unopened (h : '(' ∉ cs) : bareLabel cs = cs := by
  have := bareLabel_append h []
  rwa [List.append_nil, show bareLabel [] = [] from rfl, List.append_nil] at this

/-- **Parameters are left out**: a label with a parenthesis in it, opened and closed on one line, is
as good as the label without. -/
theorem bareLabel_parenthesised (hfront : '(' ∉ front) (hback : ')' ∉ back) (hp : '\n' ∉ p) :
    bareLabel (front ++ '(' :: (p ++ ')' :: back)) = bareLabel (front ++ back) := by
  rw [bareLabel_append hfront, bareLabel_append hfront, bareLabel_of_unclosed hback]
  congr 1
  by_cases hfeed : '\n' ∈ back
  · -- the line ends behind the parenthesis, and what follows has nothing to leave out
    obtain ⟨line, rest, rfl, hline⟩ := List.eq_append_cons_of_mem hfeed
    simp only [List.mem_append, List.mem_cons, not_or] at hback
    have hsplit : '(' :: (p ++ ')' :: (line ++ '\n' :: rest)) =
        '(' :: (p ++ ')' :: line) ++ '\n' :: rest := by simp
    rw [hsplit, bareLabel_lines (by simp [hp, hline]), dropParameters_parenthesised p hback.1,
      bareLabel_of_unclosed hback.2.2]
  · rw [bareLabel_line (by simp [hp, hfeed]), dropParameters_parenthesised p hback]

/-! ## Modifiers -/

theorem isWord_unsigned : IsWord "UNSIGNED".toList := by decide

theorem isWord_zerofill : IsWord "ZEROFILL".toList := by decide

/-- **Modifiers are taken out of each word of a label**, so its blanks do not matter. -/
theorem words_dropModifiers (cs : List Char) :
    words (dropModifiers cs) = (words cs).flatMap fun word => words (dropModifiers word) := by
  rw [dropModifiers, words_removeAll isWord_zerofill, words_removeAll isWord_unsigned,
    List.flatMap_assoc]
  exact List.flatMap_congr fun word _ => (words_removeAll isWord_zerofill _).symm

/-! ## Capitals -/

/-- What holds of the ASCII characters, checked one by one. -/
theorem forall_ascii {P : Char → Prop} (h : ∀ n < 128, P (Char.ofNat n)) (hc : c.toNat < 128) :
    P c := by
  have := h c.toNat hc
  rwa [Char.ofNat_toNat] at this

theorem toUpper_of_not_ascii (hc : ¬ c.toNat < 128) : c.toUpper = c := by
  refine dif_neg fun h => hc ?_
  have := UInt32.le_iff_toNat_le.mp h.2
  exact Nat.lt_of_le_of_lt this (by decide)

theorem toNat_toUpper_lt_iff : c.toUpper.toNat < 128 ↔ c.toNat < 128 := by
  by_cases hc : c.toNat < 128
  · have hupper : c.toUpper.toNat < 128 :=
      forall_ascii (P := fun c => c.toUpper.toNat < 128) (by decide) hc
    exact iff_of_true hupper hc
  · rw [toUpper_of_not_ascii hc]

theorem toUpper_eq_open_iff : c.toUpper = '(' ↔ c = '(' := by
  refine ⟨fun h => ?_, fun h => by rw [h]; rfl⟩
  have hc : c.toNat < 128 := by
    rw [← toNat_toUpper_lt_iff, h]
    decide
  exact forall_ascii (P := fun c => c.toUpper = '(' → c = '(') (by decide) hc h

/-- The blanks outside the ASCII range are their own capitals. -/
theorem capitalOf_blank : ∀ n ∈ [0x85, 0xA0, 0x1680, 0x2000, 0x2001, 0x2002, 0x2003, 0x2004, 0x2005,
    0x2006, 0x2007, 0x2008, 0x2009, 0x200A, 0x2028, 0x2029, 0x202F, 0x205F, 0x3000],
    capitalOf n = [n] := by
  decide +kernel

theorem upperChar_of_isBlank (hc : isBlank c = true) : upperChar c = [c] := by
  by_cases hascii : c.toNat < 128
  · rw [upperChar_of_ascii hascii]
    exact forall_ascii (P := fun c => isBlank c = true → [c.toUpper] = [c]) (by decide) hascii hc
  · simp only [isBlank, isSpace, Bool.or_eq_true, Bool.and_eq_true, decide_eq_true_eq,
      beq_iff_eq] at hc
    rw [upperChar, if_neg hascii, capitalOf_blank c.toNat (by simp; omega), List.map_singleton,
      Char.ofNat_toNat]

theorem upper_of_blank (hw : Blank w) : upper w = w := by
  induction w with
  | nil => rfl
  | cons c w ih =>
    obtain ⟨hc, hw⟩ := List.forall_mem_cons.mp hw
    rw [upper_cons, upperChar_of_isBlank hc, ih hw, List.singleton_append]

/-- A letter and its capital have the same capital. -/
theorem upperChar_congr (h : c.toUpper = d.toUpper) : upperChar c = upperChar d := by
  by_cases hc : c.toNat < 128
  · have hd : d.toNat < 128 := by rwa [← toNat_toUpper_lt_iff, ← h, toNat_toUpper_lt_iff]
    rw [upperChar_of_ascii hc, upperChar_of_ascii hd, h]
  · have hd : ¬ d.toNat < 128 := by rwa [← toNat_toUpper_lt_iff, ← h, toNat_toUpper_lt_iff]
    rw [toUpper_of_not_ascii hc, toUpper_of_not_ascii hd] at h
    rw [h]

/-! ## Other ways to write a label -/

/-- Two texts of which one is the other with the case of some letters of the ASCII range changed,
with other blanks between two parts, or with blanks at its ends. -/
inductive Respelled : List Char → List Char → Prop
  | letters {cs ds : List Char} (h : List.Forall₂ (fun c d => c.toUpper = d.toUpper) cs ds) :
    Respelled cs ds
  | gap (front back : List Char) {w w' : List Char} (hw : IsGap w) (hw' : IsGap w') :
    Respelled (front ++ w ++ back) (front ++ w' ++ back)
  | around (core : List Char) {w w' : List Char} (hw : Blank w) (hw' : Blank w') :
    Respelled (w ++ core ++ w') core

/-- **Texts that are respelled have the same words in capitals.** -/
theorem Respelled.words_upper (h : Respelled cs ds) : words (upper cs) = words (upper ds) := by
  cases h with
  | letters h =>
    have hupper : upper cs = upper ds := by
      induction h with
      | nil => rfl
      | cons hc _ ih => rw [upper_cons, upper_cons, upperChar_congr hc, ih]
    rw [hupper]
  | gap front back hw hw' =>
    rw [upper_append, upper_append, upper_append, upper_append, upper_of_blank hw.blank,
      upper_of_blank hw'.blank, words_gap_append hw, words_gap_append hw']
  | around core hw hw' =>
    rw [upper_append, upper_append, upper_of_blank hw, upper_of_blank hw', words_append_blank hw',
      words_blank_append hw]

theorem Respelled.mem_iff (h : Respelled cs ds) : '(' ∈ cs ↔ '(' ∈ ds := by
  cases h with
  | letters h =>
    induction h with
    | nil => rfl
    | cons hc _ ih =>
      rw [List.mem_cons, List.mem_cons, ih, eq_comm, ← toUpper_eq_open_iff, hc, toUpper_eq_open_iff,
        eq_comm]
  | gap front back hw hw' => simp [hw.blank.notMem (c := '(') rfl, hw'.blank.notMem (c := '(') rfl]
  | around core hw hw' => simp [hw.notMem (c := '(') rfl, hw'.notMem (c := '(') rfl]

/-! ## Canonical labels -/

theorem tidy_canonicalChars (cs : List Char) : Tidy (canonicalChars cs) :=
  tidy_join (forall_isWord_words _)

/-- Without parentheses, only the words in capitals count. -/
theorem canonicalChars_congr (hcs : '(' ∉ cs) (hds : '(' ∉ ds)
    (h : words (upper cs) = words (upper ds)) : canonicalChars cs = canonicalChars ds := by
  rw [canonicalChars, canonicalChars, bareLabel_of_unopened hcs, bareLabel_of_unopened hds,
    singleSpaced, singleSpaced, words_dropModifiers, h, ← words_dropModifiers]

/-- **A label may be respelled time and again.** -/
theorem canonicalChars_respelled (h : Relation.EqvGen Respelled cs ds) (hcs : '(' ∉ cs) :
    canonicalChars cs = canonicalChars ds := by
  have hsame : words (upper cs) = words (upper ds) ∧ ('(' ∈ cs ↔ '(' ∈ ds) := by
    clear hcs
    induction h with
    | rel _ _ h => exact ⟨h.words_upper, h.mem_iff⟩
    | refl => exact ⟨rfl, Iff.rfl⟩
    | symm _ _ _ ih => exact ⟨ih.1.symm, ih.2.symm⟩
    | trans _ _ _ _ _ ih ih' => exact ⟨ih.1.trans ih'.1, ih.2.trans ih'.2⟩
  exact canonicalChars_congr hcs (hsame.2.not.mp hcs) hsame.1

/-- Two labels that cannot be told apart: they have one canonical form, and every value reads the
same under both. -/
structure Alike (label label' : String) : Prop where
  canonical : canonicalLabel (some label) = canonicalLabel (some label')
  normalize : ∀ v, normalize v (some label) = normalize v (some label')

theorem Alike.of_canonicalChars {label label' : String}
    (h : canonicalChars label.toList = canonicalChars label'.toList) : Alike label label' := by
  have hcanonical : canonicalLabel (some label) = canonicalLabel (some label') :=
    congrArg String.ofList h
  exact ⟨hcanonical, fun v => congrArg v.normalizeAs hcanonical⟩

/-- **However a type is written, it is the same type.** Parameters do not matter, nor what stands in
them; in a label without parameters, neither do the case of ASCII letters, the blanks between its
words, and blanks around it; and the canonical label is written in one way. -/
theorem labels_select_alike :
    (∀ front p back : String, '(' ∉ front.toList → ')' ∉ back.toList → '\n' ∉ p.toList →
      Alike (front ++ "(" ++ p ++ ")" ++ back) (front ++ back)) ∧
    (∀ label label' : String, Relation.EqvGen Respelled label.toList label'.toList →
      '(' ∉ label.toList → Alike label label') ∧
    ∀ label : String, Tidy (canonicalLabel (some label)).toList := by
  refine ⟨fun front p back hfront hback hp => .of_canonicalChars ?_,
    fun label label' h hopen => .of_canonicalChars (canonicalChars_respelled h hopen),
    fun label => ?_⟩
  · have hopen : "(".toList = ['('] := rfl
    have hclose : ")".toList = [')'] := rfl
    have hsplit : (front ++ "(" ++ p ++ ")" ++ back).toList =
        front.toList ++ '(' :: (p.toList ++ ')' :: back.toList) := by
      simp only [String.toList_append, hopen, hclose, List.append_assoc, List.cons_append,
        List.nil_append]
    rw [hsplit, String.toList_append, canonicalChars, canonicalChars,
      bareLabel_parenthesised hfront hback hp]
  · rw [canonicalLabel, String.toList_ofList]
    exact tidy_canonicalChars _

example : canonicalLabel (some "\tdouble (8,\n 2)\u0085Precision (3 (4) 5)") =
    "DOUBLE (8, 2) PRECISION" := by
  decide +kernel

end Polystore
