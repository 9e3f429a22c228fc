import Polystore.Proofs.Json.NumberText
import Polystore.Proofs.Text.Trim
import Polystore.Sql.Token

/-!
# Cutting written SQL into tokens

What is written as one word, name, text or number is cut into the tokens that it was meant to be,
wherever it stands in a list. A text may hold any characters: no mark, backslash, semicolon or line
feed in it ends it early.

* `Sql.Convention.Regular`: which characters open names and texts; `Sql.regular_of`: the dialects;
* `Sql.Escapes`, **`Sql.readMarked?_escaped`**: what stands between marks is read back;
* `Sql.numberLength_append`: a number goes as far as it was written;
* `Sql.Lexes`: a piece of a text becomes some tokens, with rules for longer pieces;
* **`Sql.lexes_name`**, **`Sql.lexes_text`**, **`Sql.lexes_number`**: what names, texts and numbers
  become; `Sql.lexes_items`, `Sql.lexes_lines`: lists of pieces.
-/

namespace Polystore.Sql

open Text Json Number

/-! ## Conventions -/

/-- The characters that may open a name or a text. -/
def openingMarks : List Char := ['"', '[', '\x60', '\'']

/-- The signs that a list is written with, each a token of its own. -/
def singleSigns : List Char := ['(', ')', ',', ';', '-']

/-- What a convention promises about the characters that open names and texts. -/
structure Convention.Regular (c : Convention) : Prop where
  /-- The mark around a name closes what it opens. -/
  mark : c.nameMarks.lookup c.mark = some c.mark
  mark_ne : c.mark ≠ '\\' ∧ isBlank c.mark = false
  /-- No other characters open anything. -/
  plain : ∀ x ∉ openingMarks, c.nameMarks.lookup x = none ∧ x ∉ c.textMarks
  apostrophe : c.nameMarks.lookup '\'' = none ∧ '\'' ∈ c.textMarks

theorem regular_of (d : Option Dialect) : (Convention.of d).Regular := by
  have hne : ∀ x ∉ openingMarks, x ≠ '"' ∧ x ≠ '[' ∧ x ≠ '\x60' ∧ x ≠ '\'' := by
    simp [openingMarks]
  rcases d with _ | (_ | _ | _)
  all_goals
    refine ⟨by decide, by decide, fun x hx => ?_, by decide⟩
    obtain ⟨h1, h2, h3, h4⟩ := hne x hx
    simp [Convention.of, List.lookup_cons, beq_false_of_ne, h1, h2, h3, h4]

theorem Convention.Regular.mark_mem {c : Convention} (hc : c.Regular) : c.mark ∈ openingMarks := by
  by_contra h
  exact absurd (hc.mark.symm.trans (hc.plain _ h).1) (by simp)

theorem notMem_openingMarks {x : Char} (h : isWordChar x = true ∨ x ∈ singleSigns) :
    x ∉ openingMarks := by
  intro hx
  simp only [openingMarks, List.mem_cons, List.not_mem_nil, or_false] at hx
  rcases hx with rfl | rfl | rfl | rfl <;> revert h <;> decide

/-! ## Between marks -/

variable {c : Convention} {mark : Char} {backslash : Bool} {cs rest : List Char}

/-- How a character is written between marks. -/
inductive Escapes (mark : Char) (backslash : Bool) : Char → List Char → Prop
  | doubled : Escapes mark backslash mark [mark, mark]
  | escaped {x code : Char} (hb : backslash = true) (h : unescaped code = [x]) :
    Escapes mark backslash x ['\\', code]
  | plain {x : Char} (h : x ≠ mark) (hb : x = '\\' → backslash = false) :
    Escapes mark backslash x [x]

theorem readMarked?_doubled (hmark : mark ≠ '\\') :
    readMarked? mark backslash (mark :: mark :: rest) =
      (readMarked? mark backslash rest).map fun r => (mark :: r.1, r.2) := by
  simp [readMarked?, hmark]

/-- A mark that is not doubled ends what it is around. -/
theorem readMarked?_closed (hmark : mark ≠ '\\') (hrest : rest.head? ≠ some mark) :
    readMarked? mark backslash (mark :: rest) = some ([], rest) := by
  cases rest with
  | nil => simp [readMarked?]
  | cons y more =>
    have hy : y ≠ mark := fun e => hrest (congrArg some e)
    simp [readMarked?, hmark, hy]

theorem readMarked?_plain {x : Char} (hx : x ≠ mark) (hslash : x ≠ '\\') :
    readMarked? mark backslash (x :: rest) =
      (readMarked? mark backslash rest).map fun r => (x :: r.1, r.2) := by
  cases rest with
  | nil => simp [readMarked?, hx]
  | cons y more => simp [readMarked?, hx, hslash]

theorem readMarked?_escape (hmark : mark ≠ '\\') {x : Char} {written : List Char}
    (h : Escapes mark backslash x written) (hrest : rest ≠ []) :
    readMarked? mark backslash (written ++ rest) =
      (readMarked? mark backslash rest).map fun r => (x :: r.1, r.2) := by
  cases h with
  | doubled => exact readMarked?_doubled hmark
  | escaped hb h =>
    subst hb
    simp [readMarked?, h]
  | plain h hb =>
    by_cases hslash : x = '\\'
    · -- a backslash stands for itself, whatever comes next
      obtain rfl := hb hslash
      subst hslash
      obtain ⟨y, more, rfl⟩ := List.exists_cons_of_ne_nil hrest
      simp [readMarked?]
    · exact readMarked?_plain h hslash

/-- **What is written between marks is read back.** -/
theorem readMarked?_escaped (hmark : mark ≠ '\\') (hrest : rest.head? ≠ some mark)
    {write : Char → List Char} (h : ∀ x ∈ cs, Escapes mark backslash x (write x)) :
    readMarked? mark backslash (cs.flatMap write ++ mark :: rest) = some (cs, rest) := by
  induction cs with
  | nil => exact readMarked?_closed hmark hrest
  | cons x cs ih =>
    rw [List.flatMap_cons, List.append_assoc,
      readMarked?_escape hmark (h x List.mem_cons_self) (by simp),
      ih fun y hy => h y (List.mem_cons_of_mem _ hy)]
    rfl

/-- A character of a name between marks. -/
theorem escapes_mark (mark : Char) (x : Char) :
    Escapes mark false x (if x = mark then [x, x] else [x]) := by
  split
  · subst ‹x = mark›
    exact .doubled
  · exact .plain ‹_› fun _ => rfl

theorem unescaped_of_lookup {x code : Char} (h : backslashCodes.lookup x = some code) :
    unescaped code = [x] := by
  have hcodes : ∀ p ∈ backslashCodes, unescaped p.2 = [p.1] := by decide
  obtain ⟨front, back, hsplit, -⟩ := List.lookup_eq_some_iff.mp h
  exact hcodes (x, code) (by simp [hsplit])

/-- A character of a text. -/
theorem escapes_textChar (c : Convention) (x : Char) :
    Escapes '\'' c.backslash x (textChar c x) := by
  unfold textChar
  split_ifs with hx
  · subst hx
    exact .doubled
  · split
    · next code hb hcode => exact .escaped hb (unescaped_of_lookup hcode)
    · next hnone =>
      refine .plain hx fun hslash => ?_
      subst hslash
      cases hb : c.backslash with
      | false => rfl
      | true => exact (hnone _ hb rfl).elim

/-! ## Numbers -/

theorem isDigit_eq (x : Char) : x.isDigit = Json.isDigit x := by
  rw [Bool.eq_iff_iff, isDigit_iff]
  simp [Char.isDigit, UInt32.le_iff_toNat_le]

theorem takeWhile_isDigit {digits : List Char} (h : AreDigits digits) (hrest : StopsDigits rest) :
    (digits ++ rest).takeWhile Char.isDigit = digits :=
  List.takeWhile_append_of_stop (fun x hx => (isDigit_eq x).trans (h.2 x hx))
    fun x hx => (isDigit_eq x).trans (hrest x hx)

theorem exponentLength_append {exponent : List Char} (h : IsExponent exponent)
    (hrest : StopsNumber rest) : exponentLength (exponent ++ rest) = exponent.length := by
  cases h with
  | absent =>
    cases rest with
    | nil => rfl
    | cons x rest =>
      obtain ⟨-, -, he, hE⟩ := hrest x rfl
      simp [exponentLength, he, hE]
  | @digits e sign ds he hsign hdigits =>
    obtain ⟨d, more, rfl, hd⟩ := hdigits.exists_cons
    have hdigit : d.isDigit = true := (isDigit_eq d).trans hd
    have htake : (more ++ rest).takeWhile Char.isDigit = more := by
      simpa [hdigit] using takeWhile_isDigit hdigits hrest.stopsDigits
    rcases hsign with rfl | rfl | rfl
    · have hplus := ne_of_isDigit hd (d := '+') (by decide)
      have hminus := ne_of_isDigit hd (d := '-') (by decide)
      simp [exponentLength, he, hplus, hminus, hdigit, htake]
    all_goals simp [exponentLength, he, hdigit, htake]

/-- **A number goes as far as it was written.** -/
theorem numberLength_append {isFloat : Bool} (h : IsMagnitude isFloat cs)
    (hrest : StopsNumber rest) : numberLength (cs ++ rest) = cs.length := by
  obtain @⟨whole, fraction, exponent, hwhole, hfraction, hexponent⟩ := h
  have htake := takeWhile_isDigit hwhole.1
    (stopsDigits_of_parts hfraction hexponent hrest.stopsDigits)
  obtain ⟨hstops, hpoint⟩ := stopsFraction_of_exponent hexponent hrest
  have hlength := exponentLength_append hexponent hrest
  rw [List.append_assoc, List.append_assoc]
  simp only [numberLength, htake, List.drop_left]
  cases hfraction with
  | absent =>
    rw [List.nil_append]
    split
    · next more heq => exact absurd (congrArg List.head? heq) hpoint
    · simp [hlength]
  | @digits ds hdigits =>
    have hdrop : (whole ++ '.' :: (ds ++ (exponent ++ rest))).drop
        (whole.length + (ds.length + 1)) = exponent ++ rest := by
      simp [List.drop_append]
    simp only [List.cons_append, takeWhile_isDigit hdigits hstops, hdrop, hlength,
      List.length_append, List.length_cons]

/-! ## Tokens -/

/-- The characters that may stand behind a word, a name, a text or a number. -/
def endings : List Char := [' ', '\n', ',', ')', ';']

/-- What may stand behind a word, a name, a text or a number. -/
def Ends (rest : List Char) : Prop := ∀ x ∈ rest.head?, x ∈ endings

/-- None of these characters goes on with a word or a number, or opens anything. -/
theorem endings_spec : ∀ x ∈ endings, x ∉ openingMarks ∧ isWordChar x = false ∧
    Json.isDigit x = false ∧ x ≠ '.' ∧ x ≠ 'e' ∧ x ≠ 'E' := by
  simp only [endings, List.forall_mem_cons, List.not_mem_nil, false_imp_iff, implies_true]
  decide

theorem Ends.notMem_openingMarks (h : Ends rest) : ∀ x ∈ rest.head?, x ∉ openingMarks :=
  fun x hx => (endings_spec x (h x hx)).1

theorem Ends.stopsWord (h : Ends rest) : ∀ x ∈ rest.head?, isWordChar x = false :=
  fun x hx => (endings_spec x (h x hx)).2.1

theorem Ends.stopsNumber (h : Ends rest) : StopsNumber rest :=
  fun x hx => (endings_spec x (h x hx)).2.2

theorem isAlpha_iff {x : Char} : x.isAlpha = true ↔
    (65 ≤ x.toNat ∧ x.toNat ≤ 90) ∨ (97 ≤ x.toNat ∧ x.toNat ≤ 122) := by
  have hdef : x.isAlpha = (decide (65 ≤ x.val ∧ x.val ≤ 90) ||
      (decide (97 ≤ x.val) && decide (x.val ≤ 122))) := rfl
  rw [hdef]
  simp [UInt32.le_iff_toNat_le]

theorem isBlank_of_isWordChar {x : Char} (h : isWordChar x = true) : isBlank x = false := by
  simp only [isWordChar, isNameChar, Bool.or_eq_true, Bool.and_eq_true, beq_iff_eq] at h
  rcases h with (h | rfl) | h
  · rw [Char.isAlphanum, Bool.or_eq_true, isAlpha_iff, isDigit_eq, isDigit_iff] at h
    simp only [isBlank, isSpace, Bool.or_eq_false_iff, Bool.and_eq_false_iff,
      decide_eq_false_iff_not, beq_eq_false_iff_ne]
    omega
  · decide
  · simpa using h.2

theorem isWordChar_of_isDigit {x : Char} (h : x.isDigit = true) : isWordChar x = true := by
  simp [isWordChar, isNameChar, Char.isAlphanum, h]

theorem token?_word (hc : c.Regular) {x : Char} (hword : ∀ y ∈ x :: cs, isWordChar y = true)
    (hx : x.isDigit = false) (hrest : ∀ y ∈ rest.head?, isWordChar y = false) :
    token? c (x :: cs ++ rest) = some (.word (x :: cs), rest) := by
  have hfirst := hword x List.mem_cons_self
  obtain ⟨hname, htext⟩ := hc.plain x (Sql.notMem_openingMarks (.inl hfirst))
  have htake : (x :: (cs ++ rest)).takeWhile isWordChar = x :: cs :=
    List.takeWhile_append_of_stop hword hrest
  rw [List.cons_append, token?, hname]
  simp [htext, hx, hfirst, htake]

theorem token?_name (hc : c.Regular) (hrest : Ends rest) :
    token? c (c.mark :: (cs.flatMap (fun x => if x = c.mark then [x, x] else [x]) ++ [c.mark]) ++
      rest) = some (.name cs, rest) := by
  have hhead : rest.head? ≠ some c.mark := fun h =>
    hrest.notMem_openingMarks _ h hc.mark_mem
  rw [List.cons_append, List.append_assoc, List.singleton_append, token?, hc.mark]
  simp [readMarked?_escaped hc.mark_ne.1 hhead fun x _ => escapes_mark c.mark x]

theorem token?_text (hc : c.Regular) (hrest : Ends rest) :
    token? c (textChars c cs ++ rest) = some (.text cs, rest) := by
  have hhead : rest.head? ≠ some '\'' := fun h =>
    hrest.notMem_openingMarks _ h (by decide)
  rw [textChars, List.cons_append, List.append_assoc, List.singleton_append, token?,
    hc.apostrophe.1]
  simp [hc.apostrophe.2, readMarked?_escaped (by decide) hhead fun x _ => escapes_textChar c x]

theorem token?_number (hc : c.Regular) {isFloat : Bool} (h : IsMagnitude isFloat cs)
    (hrest : Ends rest) : token? c (cs ++ rest) = some (.number cs, rest) := by
  have hlength := numberLength_append h hrest.stopsNumber
  have hrun : ((cs ++ rest).takeWhile isWordChar).length ≤ cs.length := by
    rw [List.takeWhile_append]
    split_ifs with hall
    · have hnone : rest.takeWhile isWordChar = [] :=
        List.takeWhile_append_of_stop (l := []) (by simp) hrest.stopsWord
      rw [hnone, List.append_nil]
    · exact (List.takeWhile_sublist _).length_le
  obtain ⟨d, more, rfl, hd⟩ := h.exists_cons
  have hdigit : d.isDigit = true := (isDigit_eq d).trans hd
  have hword := isWordChar_of_isDigit hdigit
  obtain ⟨hname, htext⟩ := hc.plain d (Sql.notMem_openingMarks (.inl hword))
  rw [List.cons_append] at hlength hrun ⊢
  rw [List.length_cons, ← Nat.not_lt] at hrun
  rw [token?, hname]
  simp [htext, hlength, hdigit, hrun]

theorem singleSigns_spec : ∀ x ∈ singleSigns, x.isDigit = false ∧ isWordChar x = false ∧
    isBlank x = false ∧ ∀ s ∈ longSigns, s.head? ≠ some x := by
  simp only [singleSigns, List.forall_mem_cons, List.not_mem_nil, false_imp_iff, implies_true]
  decide

theorem token?_sign (hc : c.Regular) {x : Char} (hx : x ∈ singleSigns) :
    token? c (x :: rest) = some (.sign [x], rest) := by
  obtain ⟨hname, htext⟩ := hc.plain x (Sql.notMem_openingMarks (.inr hx))
  obtain ⟨hdigit, hword, -, hlong⟩ := singleSigns_spec x hx
  have hshort : (x :: rest).take 2 ∉ longSigns := fun h => hlong _ h rfl
  rw [token?, hname]
  simp [htext, hdigit, hword, hshort, -List.take_succ_cons]

/-! ## Pieces -/

/-- A piece of a text becomes some tokens, whatever stands behind it. -/
def Lexes (c : Convention) (piece : List Char) (ts : List Token) : Prop :=
  ∀ gap rest, Blank gap → Ends rest →
    scan? c (gap ++ (piece ++ rest)) = (scan? c rest).map (ts ++ ·)

variable {gap piece piece' : List Char} {t : Token} {ts ts' : List Token}

theorem scan?_nil (c : Convention) : scan? c [] = some [] := by
  rw [scan?]
  rfl

theorem scan?_token (hgap : Blank gap) {text : List Char} (hstart : StartsSolid text)
    (ht : token? c text = some (t, rest)) (hlength : rest.length < text.length) :
    scan? c (gap ++ text) = (scan? c rest).map (t :: ·) := by
  have hne : text ≠ [] := by
    rintro rfl
    exact absurd hlength (Nat.not_lt_zero _)
  have hguard : rest.length < (gap ++ text).length := by
    rw [List.length_append]
    omega
  rw [scan?, trimLeft_blank_append hgap hstart]
  simp only [ht, hguard, List.isEmpty_eq_false_iff.mpr hne]
  rfl

theorem scan?_sign (hc : c.Regular) {x : Char} (hx : x ∈ singleSigns)
    (hgap : Blank gap) : scan? c (gap ++ x :: rest) = (scan? c rest).map (.sign [x] :: ·) := by
  refine scan?_token hgap ?_ (token?_sign hc hx) (Nat.lt_succ_self _)
  rintro _ ⟨⟩
  exact (singleSigns_spec x hx).2.2.1

namespace Lexes

theorem of_token (hstart : StartsSolid piece) (hne : piece ≠ [])
    (h : ∀ rest, Ends rest → token? c (piece ++ rest) = some (t, rest)) : Lexes c piece [t] := by
  intro gap rest hgap hrest
  refine scan?_token hgap (hstart.append hne) (h rest hrest) ?_
  rw [List.length_append]
  have := List.length_pos_of_ne_nil hne
  omega

theorem blank {x : Char} (hx : isBlank x = true) (h : Lexes c piece ts) :
    Lexes c (x :: piece) ts := by
  intro gap rest hgap hrest
  have hgaps : Blank (gap ++ [x]) := blank_append.mpr ⟨hgap, by simpa [Blank] using hx⟩
  simpa using h (gap ++ [x]) rest hgaps hrest

theorem append (h : Lexes c piece ts) (h' : Lexes c piece' ts') (hne : piece' ≠ [])
    (hends : Ends piece') : Lexes c (piece ++ piece') (ts ++ ts') := by
  intro gap rest hgap hrest
  have hbehind : Ends (piece' ++ rest) := by
    rw [Ends, List.head?_append_of_ne_nil _ hne]
    exact hends
  have hnext := h' [] rest blank_nil hrest
  rw [List.nil_append] at hnext
  rw [List.append_assoc, h gap _ hgap hbehind, hnext, Option.map_map]
  simp [Function.comp_def]

theorem sign (hc : c.Regular) {x : Char} (hx : x ∈ singleSigns) :
    Lexes c [x] [.sign [x]] :=
  fun _ _ hgap _ => scan?_sign hc hx hgap

theorem sign_cons (hc : c.Regular) {x : Char} (hx : x ∈ singleSigns)
    (h : Lexes c piece ts) : Lexes c (x :: piece) (.sign [x] :: ts) := by
  intro gap rest hgap hrest
  have hnext := h [] rest blank_nil hrest
  rw [List.nil_append] at hnext
  rw [List.cons_append, scan?_sign hc hx hgap, hnext, Option.map_map]
  rfl

/-- A piece behind another one and a blank. -/
theorem spaced (h : Lexes c piece ts) (h' : Lexes c piece' ts') :
    Lexes c (piece ++ ' ' :: piece') (ts ++ ts') :=
  h.append (h'.blank (by decide)) (List.cons_ne_nil _ _) (by simp [Ends, endings])

/-- A piece with a closing sign behind it. -/
theorem closed (hc : c.Regular) {x : Char} (hx : x ∈ [')', ';']) (h : Lexes c piece ts) :
    Lexes c (piece ++ [x]) (ts ++ [.sign [x]]) := by
  have hsign : ∀ x ∈ [')', ';'], x ∈ singleSigns ∧ Ends [x] := by
    simp [Ends, endings, singleSigns]
  exact h.append (.sign hc (hsign x hx).1) (List.cons_ne_nil _ _) (hsign x hx).2

/-- A piece on its own. -/
theorem scan? (h : Lexes c piece ts) : scan? c piece = some ts := by
  have hall := h [] [] blank_nil (by simp [Ends, endings])
  simpa [scan?_nil] using hall

end Lexes

/-! ## Words, names, texts and numbers -/

theorem isDigit_of_isPlainName {x : Char} (h : isPlainName (x :: cs) = true) :
    x.isDigit = false := by
  simp only [isPlainName, Bool.and_eq_true, Bool.or_eq_true, beq_iff_eq] at h
  rcases h.1 with h | rfl
  · rw [isAlpha_iff] at h
    rw [isDigit_eq, Bool.eq_false_iff, Ne, isDigit_iff]
    omega
  · decide

theorem isWordChar_of_isPlainName (h : isPlainName cs = true) :
    ∀ x ∈ cs, isWordChar x = true := by
  cases cs with
  | nil => simp
  | cons y cs =>
    simp only [isPlainName, Bool.and_eq_true, Bool.or_eq_true, beq_iff_eq, List.all_eq_true] at h
    rintro x (_ | ⟨_, hx⟩)
    · rcases h.1 with h | rfl
      · simp [isWordChar, isNameChar, Char.isAlphanum, h]
      · decide
    · simp [isWordChar, h.2 x hx]

theorem lexes_word (hc : c.Regular) (hplain : isPlainName cs = true) : Lexes c cs [.word cs] := by
  have hword := isWordChar_of_isPlainName hplain
  cases cs with
  | nil => cases hplain
  | cons x cs =>
    refine .of_token ?_ (List.cons_ne_nil _ _) fun rest hrest =>
      token?_word hc hword (isDigit_of_isPlainName hplain) hrest.stopsWord
    rintro _ ⟨⟩
    exact isBlank_of_isWordChar (hword x List.mem_cons_self)

/-- A name that can be read back: it stands between marks, or needs none. -/
def Name.Legible (name : Name) : Prop := name.marked = false → isPlainName name.chars = true

/-- The token of a written name. -/
def Name.token (c : Convention) (name : Name) : Token :=
  if name.needsMarks c then .name name.chars else .word name.chars

/-- **A name is read as it was meant.** -/
theorem lexes_name (hc : c.Regular) {name : Name} (hlegible : name.Legible) :
    Lexes c (name.written c) [name.token c] := by
  rw [Name.written, Name.token]
  split_ifs with hmarks
  · refine .of_token ?_ (by simp) fun rest hrest => token?_name hc hrest
    rintro _ ⟨⟩
    exact hc.mark_ne.2
  · refine lexes_word hc (hlegible ?_)
    rw [Name.needsMarks, Bool.or_eq_true, not_or] at hmarks
    simpa using hmarks.1

/-- **A text is read as it was meant, whatever characters it holds.** -/
theorem lexes_text (hc : c.Regular) (cs : List Char) : Lexes c (textChars c cs) [.text cs] := by
  refine .of_token ?_ (by simp [textChars]) fun rest hrest => token?_text hc hrest
  rintro _ ⟨⟩
  decide

/-- The tokens of a written number. -/
def numberTokens : List Char → List Token
  | '-' :: cs => [.sign ['-'], .number cs]
  | cs => [.number cs]

theorem lexes_magnitude (hc : c.Regular) {isFloat : Bool} (h : IsMagnitude isFloat cs) :
    Lexes c cs [.number cs] := by
  obtain ⟨d, more, rfl, hd⟩ := h.exists_cons
  refine .of_token ?_ (List.cons_ne_nil _ _) fun rest hrest => token?_number hc h hrest
  rintro _ ⟨⟩
  exact isBlank_of_isWordChar (isWordChar_of_isDigit ((isDigit_eq d).trans hd))

/-- **A number is read as it was meant.** -/
theorem lexes_number (hc : c.Regular) {isFloat : Bool} (h : IsNumber isFloat cs) :
    Lexes c cs (numberTokens cs) := by
  cases h with
  | unsigned h =>
    have htokens : numberTokens cs = [.number cs] := by
      obtain ⟨d, more, rfl, hd⟩ := h.exists_cons
      rw [numberTokens]
      rintro _ ⟨⟩
      exact absurd hd (by decide)
    rw [htokens]
    exact lexes_magnitude hc h
  | negative h => exact .sign_cons hc (by decide) (lexes_magnitude hc h)

/-! ## Lists of pieces -/

/-- **Pieces with commas between them are read one by one.** -/
theorem lexes_items (hc : c.Regular) {pieces : List (List Char)} {tss : List (List Token)}
    (h : List.Forall₂ (Lexes c) pieces tss) (hne : pieces ≠ []) :
    Lexes c (", ".toList.intercalate pieces) ([.sign [',']].intercalate tss) := by
  induction h with
  | nil => exact absurd rfl hne
  | @cons piece ts pieces tss hpiece hpieces ih =>
    cases hpieces with
    | nil => simpa using hpiece
    | cons hnext hrest =>
      have hcomma := ((ih (List.cons_ne_nil _ _)).blank (x := ' ') (by decide)).sign_cons hc
        (x := ',') (by decide)
      rw [List.intercalate_cons_cons, List.intercalate_cons_cons, List.append_assoc,
        List.append_assoc]
      exact hpiece.append hcomma (List.cons_ne_nil _ _) (by simp [Ends, endings])

/-- **Pieces on lines of their own are read one by one.** -/
theorem lexes_lines {pieces : List (List Char)} {tss : List (List Token)}
    (h : List.Forall₂ (Lexes c) pieces tss) (hne : pieces ≠ []) :
    Lexes c (join '\n' pieces) tss.flatten := by
  induction h with
  | nil => exact absurd rfl hne
  | cons hpiece hpieces ih =>
    cases hpieces with
    | nil => simpa [join] using hpiece
    | cons hnext hrest =>
      have hline := (ih (List.cons_ne_nil _ _)).blank (x := '\n') (by decide)
      exact hpiece.append hline (List.cons_ne_nil _ _) (by simp [Ends, endings])

end Polystore.Sql
