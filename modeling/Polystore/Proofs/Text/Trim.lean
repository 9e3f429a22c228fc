import Mathlib.Data.List.Basic
import Mathlib.Data.List.TakeWhile
import Polystore.Text.Blank
import Polystore.Text.Pieces

/-!
# Texts without blanks at their ends

Trimming takes the blanks off the ends of a text and nothing else. So a trimmed text is found by
writing the text as blanks, a middle without blanks at its ends, and blanks.

* `List.takeWhile_append_of_stop`, `List.dropWhile_append_of_stop`: a run up to where it stops;
* `Text.Blank`: runs of blanks; `Text.Trimmed`: no blank at either end;
* **`Text.trim_eq_iff`**, `Text.trimLeft_eq_iff`, `Text.trimRight_eq_iff`;
* `Text.trim_append`, `Text.trimRight_append`: trimming what ends in something else;
* `Text.dropWord?_eq_some_iff`: the rest behind a word.
-/

namespace List

variable {α : Type} {p : α → Bool} {l rest : List α}

/-- A run ends where its property does. -/
theorem takeWhile_append_of_stop (h : ∀ a ∈ l, p a = true) (hrest : ∀ a ∈ rest.head?, p a = false) :
    (l ++ rest).takeWhile p = l := by
  rw [takeWhile_append_of_pos h]
  cases rest with
  | nil => simp
  | cons a rest => simp [hrest a rfl]

theorem dropWhile_append_of_stop (h : ∀ a ∈ l, p a = true) (hrest : ∀ a ∈ rest.head?, p a = false) :
    (l ++ rest).dropWhile p = rest := by
  rw [dropWhile_append_of_pos h]
  cases rest with
  | nil => rfl
  | cons a rest => simp [hrest a rfl]

end List

namespace Polystore.Text

/-- A run of blanks. -/
def Blank (cs : List Char) : Prop := ∀ c ∈ cs, isBlank c = true

/-- No blank in front. -/
def StartsSolid (cs : List Char) : Prop := ∀ c ∈ cs.head?, isBlank c = false

/-- No blank at the end. -/
def EndsSolid (cs : List Char) : Prop := ∀ c ∈ cs.getLast?, isBlank c = false

/-- No blank at either end. -/
def Trimmed (cs : List Char) : Prop := StartsSolid cs ∧ EndsSolid cs

variable {cs ds rest front core w w' : List Char} {c : Char}

theorem blank_nil : Blank [] := by simp [Blank]

theorem blank_append : Blank (w ++ w') ↔ Blank w ∧ Blank w' := List.forall_mem_append

theorem blank_reverse : Blank w.reverse ↔ Blank w := by simp [Blank]

theorem startsSolid_reverse : StartsSolid cs.reverse ↔ EndsSolid cs := by
  simp [StartsSolid, EndsSolid]

theorem StartsSolid.append (h : StartsSolid cs) (hne : cs ≠ []) : StartsSolid (cs ++ ds) := by
  intro c hc
  rw [List.head?_append_of_ne_nil _ hne] at hc
  exact h c hc

theorem EndsSolid.append (h : EndsSolid ds) (hne : ds ≠ []) : EndsSolid (cs ++ ds) := by
  intro c hc
  rw [List.getLast?_append_of_ne_nil _ hne] at hc
  exact h c hc

/-- A character that is no blank stands in no run of blanks. -/
theorem Blank.notMem (hb : Blank w) (hc : isBlank c = false) : c ∉ w := by
  intro h
  rw [hb c h] at hc
  cases hc

/-! ## Trimming on the left -/

theorem blank_takeWhile (cs : List Char) : Blank (cs.takeWhile isBlank) :=
  fun _ hc => List.mem_takeWhile_imp hc

theorem startsSolid_trimLeft (cs : List Char) : StartsSolid (trimLeft cs) := by
  intro c hc
  have h := List.head?_dropWhile_not isBlank cs
  rw [Option.mem_def] at hc
  rw [trimLeft] at hc
  rw [hc] at h
  simpa using h

theorem trimLeft_blank_append (hb : Blank w) (h : StartsSolid rest) :
    trimLeft (w ++ rest) = rest := by
  rw [trimLeft, List.dropWhile_append_of_pos hb]
  cases rest with
  | nil => rfl
  | cons c rest => exact List.dropWhile_cons_of_neg (by simp [h c rfl])

/-- **What is left on the right of the blanks in front.** -/
theorem trimLeft_eq_iff :
    trimLeft cs = rest ↔ StartsSolid rest ∧ ∃ w, Blank w ∧ cs = w ++ rest := by
  constructor
  · rintro rfl
    exact ⟨startsSolid_trimLeft cs, _, blank_takeWhile cs, (List.takeWhile_append_dropWhile).symm⟩
  · rintro ⟨h, w, hb, rfl⟩
    exact trimLeft_blank_append hb h

/-! ## Trimming on the right -/

theorem trimRight_eq_iff :
    trimRight cs = front ↔ EndsSolid front ∧ ∃ w, Blank w ∧ cs = front ++ w := by
  have hreverse : trimRight cs = front ↔ trimLeft cs.reverse = front.reverse := by
    rw [trimRight, ← trimLeft, List.reverse_eq_iff]
  rw [hreverse, trimLeft_eq_iff, startsSolid_reverse]
  refine and_congr_right fun _ => ⟨?_, ?_⟩
  · rintro ⟨w, hb, h⟩
    refine ⟨w.reverse, blank_reverse.mpr hb, ?_⟩
    rw [← List.reverse_reverse cs, h, List.reverse_append, List.reverse_reverse]
  · rintro ⟨w, hb, rfl⟩
    exact ⟨w.reverse, blank_reverse.mpr hb, List.reverse_append⟩

/-- What stands in front of a character that is no blank stays. -/
theorem trimRight_append (h : EndsSolid front) :
    trimRight (front ++ rest) = front ++ trimRight rest := by
  obtain ⟨hends, w, hb, hrest⟩ := trimRight_eq_iff.mp (rfl : trimRight rest = _)
  refine trimRight_eq_iff.mpr ⟨?_, w, hb, ?_⟩
  · cases hr : trimRight rest with
    | nil => simpa using h
    | cons c cs => exact (hr ▸ hends).append (by simp)
  · rw [List.append_assoc, ← hrest]

/-! ## Trimming on both sides -/

/-- **A text is trimmed to its middle without blanks at its ends.** -/
theorem trim_eq_iff :
    trim cs = core ↔ Trimmed core ∧ ∃ w w', Blank w ∧ Blank w' ∧ cs = w ++ core ++ w' := by
  constructor
  · rintro rfl
    obtain ⟨hstart, w, hb, hcs⟩ := trimLeft_eq_iff.mp (rfl : trimLeft cs = _)
    obtain ⟨hend, w', hb', hleft⟩ := trimRight_eq_iff.mp (rfl : trimRight (trimLeft cs) = _)
    refine ⟨⟨?_, hend⟩, w, w', hb, hb', ?_⟩
    · intro c hc
      refine hstart c ?_
      rw [hleft]
      exact List.mem_head?_append_of_mem_head? hc
    · rw [trim, List.append_assoc, ← hleft]
      exact hcs
  · rintro ⟨⟨hstart, hend⟩, w, w', hb, hb', rfl⟩
    cases core with
    | nil =>
      have hnil : trimLeft (w ++ [] ++ w') = [] :=
        trimLeft_eq_iff.mpr ⟨by simp [StartsSolid], w ++ w', blank_append.mpr ⟨hb, hb'⟩, by simp⟩
      rw [trim, hnil]
      rfl
    | cons c core =>
      have hleft : trimLeft (w ++ (c :: core) ++ w') = (c :: core) ++ w' := by
        rw [List.append_assoc]
        exact trimLeft_blank_append hb (hstart.append (by simp))
      rw [trim, hleft]
      exact trimRight_eq_iff.mpr ⟨hend, w', hb', rfl⟩

/-- The two ends are trimmed in any order. -/
theorem trimLeft_trimRight (cs : List Char) : trimLeft (trimRight cs) = trim cs := by
  obtain ⟨⟨hstart, hend⟩, w, w', hb, hb', hcs⟩ := trim_eq_iff.mp (rfl : trim cs = _)
  cases hcore : trim cs with
  | nil =>
    have hblank : Blank cs := by
      rw [hcs, hcore, List.append_nil]
      exact blank_append.mpr ⟨hb, hb'⟩
    have hright : trimRight cs = [] :=
      trimRight_eq_iff.mpr ⟨by simp [EndsSolid], cs, hblank, rfl⟩
    rw [hright]
    rfl
  | cons c core =>
    rw [hcore] at hstart hend hcs
    have hright : trimRight cs = w ++ c :: core :=
      trimRight_eq_iff.mpr ⟨hend.append (by simp), w', hb', hcs⟩
    rw [hright]
    exact trimLeft_blank_append hb hstart

theorem trim_blank_append (hb : Blank w) (cs : List Char) : trim (w ++ cs) = trim cs := by
  rw [trim, trimLeft, List.dropWhile_append_of_pos hb]
  rfl

theorem trimRight_trimRight (cs : List Char) : trimRight (trimRight cs) = trimRight cs :=
  trimRight_eq_iff.mpr
    ⟨(trimRight_eq_iff.mp (rfl : trimRight cs = _)).1, [], blank_nil, (List.append_nil _).symm⟩

theorem trim_eq_nil_iff : trim cs = [] ↔ Blank cs := by
  rw [trim_eq_iff]
  constructor
  · rintro ⟨-, w, w', hb, hb', rfl⟩
    rw [List.append_nil]
    exact blank_append.mpr ⟨hb, hb'⟩
  · exact fun h => ⟨⟨by simp [StartsSolid], by simp [EndsSolid]⟩, cs, [], h, blank_nil, by simp⟩

/-- Behind something that begins and ends without a blank, a text is trimmed on its right only. -/
theorem trim_append (rest : List Char) (hb : Blank w) (h : Trimmed front) (hne : front ≠ []) :
    trim (w ++ front ++ rest) = front ++ trimRight rest := by
  rw [trim, List.append_assoc, trimLeft_blank_append hb (h.1.append hne)]
  exact trimRight_append h.2

/-! ## Words in front -/

theorem dropWord?_eq_some_iff {word : String} :
    dropWord? word cs = some rest ↔ cs = word.toList ++ rest := by
  unfold dropWord?
  split_ifs with h
  · obtain ⟨more, rfl⟩ := List.isPrefixOf_iff_prefix.mp h
    simp [eq_comm]
  · refine iff_of_false (by simp) ?_
    rintro rfl
    exact h (List.isPrefixOf_iff_prefix.mpr (List.prefix_append _ _))

theorem dropWord?_eq_none_iff {word : String} :
    dropWord? word cs = none ↔ ¬ word.toList <+: cs := by
  unfold dropWord?
  split_ifs with h
  · simp [List.isPrefixOf_iff_prefix.mp h]
  · simpa using fun hp => h (List.isPrefixOf_iff_prefix.mpr hp)

end Polystore.Text
