import Mathlib.Data.List.Chain
import Mathlib.Data.List.Pairwise
import Polystore.Proofs.Text.Words
import Polystore.Text.Pieces

/-!
# Cutting at a character, and taking words out

* `Text.pieces_eq_splitOn`, `Text.pieces_line`, `Text.subset_of_mem_pieces`: the pieces of a text
  between separators;
* `Text.join_cons`, `Text.subset_join`: what pieces are joined to;
* `Text.removeFrom_append`: an occurrence of a word does not reach over a blank;
* **`Text.words_removeAll`**: so a word is taken out of each word of a text.
-/

namespace Polystore.Text

/-! ## Pieces -/

section Pieces

variable {separator c : Char} {cs line piece : List Char} {parts : List (List Char)}

theorem pieces_eq_splitOn (separator : Char) (cs : List Char) :
    pieces separator cs = cs.splitOn separator := by
  induction cs with
  | nil => exact (List.splitOn_nil separator).symm
  | cons c cs ih =>
    obtain ⟨piece, rest, hcs⟩ := List.exists_cons_of_ne_nil (pieces_ne_nil separator cs)
    rw [List.splitOn_cons_eq_if_modifyHead, ← ih, pieces, hcs]
    simp

theorem pieces_of_notMem (h : separator ∉ cs) : pieces separator cs = [cs] := by
  rw [pieces_eq_splitOn, List.splitOn_eq_singleton h]

/-- The first piece ends at the first separator. -/
theorem pieces_line (h : separator ∉ line) (cs : List Char) :
    pieces separator (line ++ separator :: cs) = line :: pieces separator cs := by
  simp only [pieces_eq_splitOn, List.splitOn_append_cons_self_of_not_mem h]

/-- A character that is no separator goes to the first piece. -/
theorem pieces_cons_of_ne (hc : c ≠ separator) (cs : List Char) :
    ∃ piece rest, pieces separator cs = piece :: rest ∧
      pieces separator (c :: cs) = (c :: piece) :: rest := by
  obtain ⟨piece, rest, hcs⟩ := List.exists_cons_of_ne_nil (pieces_ne_nil separator cs)
  refine ⟨piece, rest, hcs, ?_⟩
  rw [pieces, if_neg hc, hcs]

theorem join_cons (h : parts ≠ []) :
    join separator (piece :: parts) = piece ++ separator :: join separator parts := by
  obtain ⟨first, rest, rfl⟩ := List.exists_cons_of_ne_nil h
  rfl

theorem join_cons_cons (separator c : Char) (piece : List Char) (parts : List (List Char)) :
    join separator ((c :: piece) :: parts) = c :: join separator (piece :: parts) := by
  cases parts <;> rfl

theorem subset_join (separator : Char) (h : piece ∈ parts) : piece ⊆ join separator parts := by
  induction parts with
  | nil => cases h
  | cons first parts ih =>
    rcases List.mem_cons.mp h with rfl | h
    · cases parts with
      | nil => exact List.Subset.refl _
      | cons next parts => exact List.subset_append_left _ _
    · rw [join_cons (List.ne_nil_of_mem h)]
      exact fun _ hc => List.mem_append_right _ (List.mem_cons_of_mem _ (ih h hc))

theorem subset_of_mem_pieces (h : piece ∈ pieces separator cs) : piece ⊆ cs := by
  have := subset_join separator h
  rwa [join_pieces] at this

end Pieces

/-! ## Words taken out -/

section Removal

variable {m front back cs : List Char}

/-- A word in front of a text that is cut at a blank stands in front of the first part. -/
theorem IsWord.prefix_append_iff (hm : IsWord m) (hback : StartsBlank back) :
    m <+: front ++ back ↔ m <+: front := by
  refine ⟨fun h => ?_, fun h => h.trans (List.prefix_append front back)⟩
  rcases List.prefix_or_prefix_of_prefix h (List.prefix_append front back) with hm' | ⟨t, rfl⟩
  · exact hm'
  · rw [List.prefix_append_right_inj] at h
    cases t with
    | nil => simp
    | cons c t =>
      obtain ⟨rest, rfl⟩ := h
      exact absurd (by simp) (hm.notMem (hback c rfl))

/-- An occurrence of a word does not reach over a blank. -/
theorem removeFrom_append (hm : IsWord m) (hback : StartsBlank back) {skip : Nat}
    (hskip : skip ≤ front.length) :
    removeFrom m skip (front ++ back) = removeFrom m skip front ++ removeAll m back := by
  induction front generalizing skip with
  | nil =>
    obtain rfl : skip = 0 := Nat.le_zero.mp hskip
    rfl
  | cons c front ih =>
    cases skip with
    | succ skip => exact ih (Nat.le_of_succ_le_succ hskip)
    | zero =>
      rw [List.cons_append, removeFrom, removeFrom, ← List.cons_append]
      simp only [List.isPrefixOf_iff_prefix, hm.prefix_append_iff hback]
      split_ifs with hword
      · have := hword.length_le
        exact ih (by simpa [Nat.sub_le_iff_le_add] using this)
      · rw [ih (Nat.zero_le _), List.cons_append]

theorem removeAll_cons_of_isBlank (hm : IsWord m) {c : Char} (hc : isBlank c = true) :
    removeAll m (c :: cs) = c :: removeAll m cs := by
  refine if_neg fun h => ?_
  obtain ⟨d, m, rfl⟩ := List.exists_cons_of_ne_nil hm.ne_nil
  obtain ⟨rfl, -⟩ := List.cons_prefix_cons.mp (List.isPrefixOf_iff_prefix.mp h)
  exact hm.notMem hc List.mem_cons_self

theorem StartsBlank.removeAll (hm : IsWord m) (h : StartsBlank cs) :
    StartsBlank (removeAll m cs) := by
  cases cs with
  | nil => exact h
  | cons c cs =>
    rw [removeAll_cons_of_isBlank hm (h c rfl)]
    exact h

/-- **A word is taken out of each word of a text**, which may leave nothing of it. -/
theorem words_removeAll (hm : IsWord m) (cs : List Char) :
    words (removeAll m cs) = (words cs).flatMap fun word => words (removeAll m word) := by
  fun_induction words cs with
  | case1 => exact words_nil
  | case2 c cs hc ih =>
    rw [removeAll_cons_of_isBlank hm hc, words_cons_of_isBlank hc, ih]
  | case3 c cs hc ih =>
    have hrest : StartsBlank (cs.dropWhile (!isBlank ·)) := startsBlank_dropWhile cs
    have hsplit : c :: cs = (c :: cs.takeWhile (!isBlank ·)) ++ cs.dropWhile (!isBlank ·) := by
      rw [List.cons_append, List.takeWhile_append_dropWhile]
    conv_lhs => rw [hsplit]
    rw [Text.removeAll, removeFrom_append hm hrest (Nat.zero_le _), ← Text.removeAll,
      words_append (hrest.removeAll hm), ih, List.flatMap_cons]

end Removal

/-! ## Words with single spaces -/

section Tidy

variable {front back : List Char}

/-- No blanks at the ends, and single spaces between the words. -/
structure Tidy (cs : List Char) : Prop where
  trimmed : Trimmed cs
  spaces : ∀ c ∈ cs, isBlank c = true → c = ' '
  apart : cs.IsChain fun c d => isBlank c = true → isBlank d = false

theorem IsWord.tidy {word : List Char} (h : IsWord word) : Tidy word where
  trimmed := ⟨fun c hc => h.solid c (List.mem_of_mem_head? hc),
    fun c hc => h.solid c (List.mem_of_mem_getLast? hc)⟩
  spaces c hc hblank := absurd hc (h.notMem hblank)
  apart := by
    refine List.Pairwise.isChain (List.pairwise_of_forall_mem_list ?_)
    exact fun _ _ d hd _ => h.solid d hd

/-- Tidy texts are put together at a space. -/
theorem Tidy.append_space (hfront : Tidy front) (hne : front ≠ []) (hback : Tidy back)
    (hne' : back ≠ []) : Tidy (front ++ ' ' :: back) where
  trimmed := ⟨hfront.trimmed.1.append hne, by
    rw [List.append_cons]
    exact hback.trimmed.2.append hne'⟩
  spaces c hc hblank := by
    simp only [List.mem_append, List.mem_cons] at hc
    rcases hc with hc | rfl | hc
    · exact hfront.spaces c hc hblank
    · rfl
    · exact hback.spaces c hc hblank
  apart := by
    rw [List.isChain_append, List.isChain_cons]
    refine ⟨hfront.apart, ⟨fun d hd _ => hback.trimmed.1 d hd, hback.apart⟩, fun c hc d hd h => ?_⟩
    rw [hfront.trimmed.2 c hc] at h
    cases h

theorem tidy_join {parts : List (List Char)} (h : ∀ word ∈ parts, IsWord word) :
    Tidy (join ' ' parts) := by
  induction parts with
  | nil => exact ⟨⟨nofun, nofun⟩, nofun, .nil⟩
  | cons word parts ih =>
    obtain ⟨hword, hparts⟩ := List.forall_mem_cons.mp h
    cases parts with
    | nil => exact hword.tidy
    | cons next rest =>
      have hnext : next ≠ [] := (hparts next List.mem_cons_self).ne_nil
      refine hword.tidy.append_space hword.ne_nil (ih hparts) fun hnil => hnext ?_
      exact List.subset_nil.mp (hnil ▸ subset_join ' ' List.mem_cons_self)

end Tidy

end Polystore.Text
