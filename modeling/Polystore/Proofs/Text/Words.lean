import Polystore.Proofs.Text.Trim

/-!
# Words of a text

The words of a text are its longest runs without a blank. What stands between them does not count,
as long as it is at least one blank.

* `Text.IsWord`, `Text.IsGap`: words, and what sets them apart;
* **`Text.words_append`**, `Text.words_gap_append`: the words of a text that is put together at a
  blank;
* `Text.forall_isWord_words`, `Text.flatten_words`: words have no blanks, and nothing but blanks is
  lost;
* `Text.Line`, **`Text.Line.words_chars`**, **`Text.exists_line`**: words with gaps between them,
  and every text that is not blank written in this way.
-/

namespace Polystore.Text

/-- A word has at least one character, and no blank. -/
structure IsWord (cs : List Char) : Prop where
  ne_nil : cs ≠ []
  solid : ∀ c ∈ cs, isBlank c = false

instance (cs : List Char) : Decidable (IsWord cs) :=
  decidable_of_iff (cs ≠ [] ∧ cs.all (!isBlank ·) = true)
    ⟨fun ⟨hne, h⟩ => ⟨hne, by simpa using h⟩, fun h => ⟨h.ne_nil, by simpa using h.solid⟩⟩

/-- What stands between two words: at least one blank. -/
structure IsGap (cs : List Char) : Prop where
  ne_nil : cs ≠ []
  blank : Blank cs

/-- A word that stands in front of such a text ends there. -/
def StartsBlank (cs : List Char) : Prop := ∀ c ∈ cs.head?, isBlank c = true

variable {cs front back rest w word : List Char} {c : Char}

theorem IsWord.notMem (h : IsWord word) (hc : isBlank c = true) : c ∉ word := by
  intro hmem
  rw [h.solid c hmem] at hc
  cases hc

theorem Blank.startsBlank (h : Blank w) : StartsBlank w :=
  fun c hc => h c (List.mem_of_mem_head? hc)

theorem StartsBlank.append (h : StartsBlank front) (h' : StartsBlank back) :
    StartsBlank (front ++ back) := by
  cases front with
  | nil => exact h'
  | cons c front => exact h

theorem IsGap.startsBlank_append (h : IsGap w) (back : List Char) : StartsBlank (w ++ back) := by
  intro c hc
  rw [List.head?_append_of_ne_nil _ h.ne_nil] at hc
  exact h.blank.startsBlank c hc

theorem startsBlank_dropWhile (cs : List Char) : StartsBlank (cs.dropWhile (!isBlank ·)) := by
  intro c hc
  have h := List.head?_dropWhile_not (!isBlank ·) cs
  rw [Option.mem_def] at hc
  rw [hc] at h
  simpa using h

/-! ## Words of parts -/

theorem words_nil : words [] = [] := by rw [words.eq_def]

theorem words_cons_of_isBlank (hc : isBlank c = true) : words (c :: cs) = words cs := by
  rw [words.eq_def]
  exact if_pos hc

theorem words_cons_of_solid (hc : isBlank c = false) :
    words (c :: cs) = (c :: cs.takeWhile (!isBlank ·)) :: words (cs.dropWhile (!isBlank ·)) := by
  rw [words.eq_def]
  exact if_neg (by simp [hc])

theorem words_blank_append (hw : Blank w) : words (w ++ cs) = words cs := by
  induction w with
  | nil => rfl
  | cons c w ih =>
    rw [List.cons_append, words_cons_of_isBlank (hw c List.mem_cons_self)]
    exact ih fun d hd => hw d (List.mem_cons_of_mem _ hd)

theorem words_of_blank (hw : Blank w) : words w = [] := by
  rw [← List.append_nil w, words_blank_append hw, words_nil]

theorem words_word_append (hword : IsWord word) (hrest : StartsBlank rest) :
    words (word ++ rest) = word :: words rest := by
  obtain ⟨c, word, rfl⟩ := List.exists_cons_of_ne_nil hword.ne_nil
  obtain ⟨hc, hsolid⟩ := List.forall_mem_cons.mp hword.solid
  have hrun : ∀ d ∈ word, (!isBlank d) = true := by simpa using hsolid
  have hstop : ∀ d ∈ rest.head?, (!isBlank d) = false := by simpa [StartsBlank] using hrest
  rw [List.cons_append, words_cons_of_solid hc, List.takeWhile_append_of_stop hrun hstop,
    List.dropWhile_append_of_stop hrun hstop]

/-- The run of a word that a text begins with. -/
theorem isWord_run (hc : isBlank c = false) : IsWord (c :: cs.takeWhile (!isBlank ·)) where
  ne_nil := List.cons_ne_nil _ _
  solid := List.forall_mem_cons.mpr ⟨hc, fun d hd => by simpa using List.mem_takeWhile_imp hd⟩

/-- **Cut at a blank, a text has the words of its parts.** -/
theorem words_append (hback : StartsBlank back) :
    words (front ++ back) = words front ++ words back := by
  fun_induction words front with
  | case1 => rfl
  | case2 c cs hc ih => rw [List.cons_append, words_cons_of_isBlank hc, ih]
  | case3 c cs hc ih =>
    have hrun : IsWord (c :: cs.takeWhile (!isBlank ·)) := isWord_run (by simpa using hc)
    have hsplit : c :: cs ++ back =
        (c :: cs.takeWhile (!isBlank ·)) ++ (cs.dropWhile (!isBlank ·) ++ back) := by
      conv_lhs => rw [← List.takeWhile_append_dropWhile (p := (!isBlank ·)) (l := cs)]
      rw [List.cons_append, List.cons_append, List.append_assoc]
    rw [hsplit, words_word_append hrun ((startsBlank_dropWhile cs).append hback), ih]
    rfl

/-- It does not matter which blanks set two parts apart. -/
theorem words_gap_append (hw : IsGap w) :
    words (front ++ w ++ back) = words front ++ words back := by
  rw [List.append_assoc, words_append (hw.startsBlank_append back), words_blank_append hw.blank]

theorem words_append_blank (hw : Blank w) : words (cs ++ w) = words cs := by
  rw [words_append hw.startsBlank, words_of_blank hw, List.append_nil]

/-! ## All words -/

theorem forall_isWord_words (cs : List Char) : ∀ word ∈ words cs, IsWord word := by
  fun_induction words cs with
  | case1 => simp
  | case2 c cs hc ih => exact ih
  | case3 c cs hc ih => exact List.forall_mem_cons.mpr ⟨isWord_run (by simpa using hc), ih⟩

/-- Nothing but blanks is lost between the words. -/
theorem flatten_words (cs : List Char) : (words cs).flatten = cs.filter (!isBlank ·) := by
  fun_induction words cs with
  | case1 => rfl
  | case2 c cs hc ih => rw [ih, List.filter_cons_of_neg (by simp [hc])]
  | case3 c cs hc ih =>
    have hfront : (cs.takeWhile (!isBlank ·)).filter (!isBlank ·) = cs.takeWhile (!isBlank ·) :=
      List.filter_eq_self.mpr fun _ hd => List.mem_takeWhile_imp (p := (!isBlank ·)) hd
    rw [List.flatten_cons, ih, List.filter_cons_of_pos (by simpa using hc), List.cons_append]
    conv_rhs => rw [← List.takeWhile_append_dropWhile (p := (!isBlank ·)) (l := cs)]
    rw [List.filter_append, hfront]

theorem words_eq_nil_iff : words cs = [] ↔ Blank cs := by
  refine ⟨fun h => ?_, words_of_blank⟩
  have hnone := flatten_words cs
  rw [h, List.flatten_nil, eq_comm, List.filter_eq_nil_iff] at hnone
  simpa [Blank] using hnone

/-! ## Words behind gaps -/

/-- A word with the blanks in front of it. -/
structure Spaced where
  gap : List Char
  word : List Char
  isGap : IsGap gap
  isWord : IsWord word

def Spaced.chars (s : Spaced) : List Char := s.gap ++ s.word

theorem startsBlank_spaced (ss : List Spaced) (hw : Blank w) :
    StartsBlank (ss.flatMap Spaced.chars ++ w) := by
  cases ss with
  | nil => exact hw.startsBlank
  | cons s ss =>
    rw [List.flatMap_cons, Spaced.chars, List.append_assoc, List.append_assoc]
    exact s.isGap.startsBlank_append _

theorem words_spaced (ss : List Spaced) (hw : Blank w) :
    words (ss.flatMap Spaced.chars ++ w) = ss.map Spaced.word := by
  induction ss with
  | nil => exact words_of_blank hw
  | cons s ss ih =>
    rw [List.flatMap_cons, Spaced.chars, List.append_assoc, List.append_assoc,
      words_blank_append s.isGap.blank, words_word_append s.isWord (startsBlank_spaced ss hw), ih,
      List.map_cons]

/-- Words with gaps between them, and with blanks around them or not. -/
structure Line where
  lead : List Char
  first : List Char
  rest : List Spaced
  trail : List Char
  blank_lead : Blank lead
  isWord_first : IsWord first
  blank_trail : Blank trail

namespace Line

def chars (l : Line) : List Char := l.lead ++ (l.first ++ (l.rest.flatMap Spaced.chars ++ l.trail))

def words (l : Line) : List (List Char) := l.first :: l.rest.map Spaced.word

/-- **The words of a line are those that it was put together from.** -/
theorem words_chars (l : Line) : Text.words l.chars = l.words := by
  rw [chars, words_blank_append l.blank_lead,
    words_word_append l.isWord_first (startsBlank_spaced l.rest l.blank_trail),
    words_spaced l.rest l.blank_trail, words]

end Line

/-- **A text that is not blank is a line.** -/
theorem exists_line (h : ¬ Blank cs) : ∃ l : Line, l.chars = cs := by
  fun_induction words cs with
  | case1 => exact absurd blank_nil h
  | case2 c cs hc ih =>
    obtain ⟨l, rfl⟩ := ih fun hcs => h (List.forall_mem_cons.mpr ⟨hc, hcs⟩)
    have hlead : Blank (c :: l.lead) := List.forall_mem_cons.mpr ⟨hc, l.blank_lead⟩
    exact ⟨{ l with lead := c :: l.lead, blank_lead := hlead }, rfl⟩
  | case3 c cs hc ih =>
    have hrun : IsWord (c :: cs.takeWhile (!isBlank ·)) := isWord_run (by simpa using hc)
    have hsplit : cs.takeWhile (!isBlank ·) ++ cs.dropWhile (!isBlank ·) = cs :=
      List.takeWhile_append_dropWhile
    by_cases hblank : Blank (cs.dropWhile (!isBlank ·))
    · refine ⟨⟨[], _, [], _, blank_nil, hrun, hblank⟩, ?_⟩
      exact congrArg (c :: ·) hsplit
    · obtain ⟨l, hl⟩ := ih hblank
      -- the blanks in front of the first of the other words set it apart from this one
      have hlead : l.lead ≠ [] := by
        intro hnil
        obtain ⟨d, more, hfirst⟩ := List.exists_cons_of_ne_nil l.isWord_first.ne_nil
        have hstart := startsBlank_dropWhile cs d (by simp [← hl, Line.chars, hnil, hfirst])
        exact l.isWord_first.notMem hstart (by simp [hfirst])
      refine ⟨⟨[], _, ⟨l.lead, l.first, ⟨hlead, l.blank_lead⟩, l.isWord_first⟩ :: l.rest, l.trail,
        blank_nil, hrun, l.blank_trail⟩, ?_⟩
      simp only [Line.chars, List.flatMap_cons, Spaced.chars, List.nil_append, List.append_assoc]
      rw [← Line.chars, hl, List.cons_append, hsplit]

end Polystore.Text
