import Polystore.Proofs.Json.Scanner
import Polystore.Proofs.Text.Trim

/-!
# Every text of the grammar is read

The strict reader finds the tree of every text that the grammar allows, gaps and escapes included.
The proof follows the grammar: each rule is read by one branch of the reader, and the reader stops
right behind what the rule spells.

* `Json.Spells.begins`: what a value begins with;
* `Json.StopsValue`: what may stand behind a value;
* `Json.readValue_append`, `Json.readItems_append`, `Json.readMembers_append`;
* **`Json.read_of_spells`**, **`Json.Spells.unique`**.
-/

namespace Polystore.Json

open Number Text

variable {t : Tree} {cs rest gap lexeme : List Char} {fuel place : Nat} {isFloat : Bool}

/-! ## The first character of a value -/

/-- What neither a gap nor a closing bracket begins with. -/
def BeginsValue (cs : List Char) : Prop :=
  ∃ c more, cs = c :: more ∧ isGap c = false ∧ c ≠ ']' ∧ c ≠ '\x7d' ∧ c ≠ '\ufeff'

theorem BeginsValue.append (h : BeginsValue cs) (rest : List Char) : BeginsValue (cs ++ rest) := by
  obtain ⟨c, more, rfl, hc⟩ := h
  exact ⟨c, more ++ rest, rfl, hc⟩

theorem BeginsValue.length_pos (h : BeginsValue cs) : 0 < cs.length := by
  obtain ⟨c, more, rfl, -⟩ := h
  exact Nat.succ_pos _

/-- A lexeme begins with a digit, behind a minus sign or not. -/
theorem IsNumber.begins (h : IsNumber isFloat lexeme) :
    ∃ d more, isDigit d = true ∧ (lexeme = d :: more ∨ lexeme = '-' :: d :: more) := by
  cases h with
  | unsigned h =>
    obtain ⟨d, more, rfl, hd⟩ := h.exists_cons
    exact ⟨d, more, hd, .inl rfl⟩
  | negative h =>
    obtain ⟨d, more, rfl, hd⟩ := h.exists_cons
    exact ⟨d, more, hd, .inr rfl⟩

theorem beginsValue_of_isDigit {d : Char} (hd : isDigit d = true) (more : List Char) :
    BeginsValue (d :: more) := by
  have hgap : isGap d = false := by
    simp [isGap, ne_of_isDigit hd (d := ' ') (by decide), ne_of_isDigit hd (d := '\t') (by decide),
      ne_of_isDigit hd (d := '\n') (by decide), ne_of_isDigit hd (d := '\r') (by decide)]
  exact ⟨d, more, rfl, hgap, ne_of_isDigit hd (by decide), ne_of_isDigit hd (by decide),
    ne_of_isDigit hd (by decide)⟩

/-- A number begins with no quote and no bracket. -/
theorem IsNumber.begins_scalar (h : IsNumber isFloat lexeme) :
    ∀ c ∈ (lexeme ++ rest).head?, c ≠ '"' ∧ c ≠ '[' ∧ c ≠ '\x7b' := by
  obtain ⟨d, more, hd, rfl | rfl⟩ := h.begins
  · rintro _ ⟨⟩
    exact ⟨ne_of_isDigit hd (by decide), ne_of_isDigit hd (by decide), ne_of_isDigit hd (by decide)⟩
  · rintro _ ⟨⟩
    decide

theorem Spells.begins (h : Spells t cs) : BeginsValue cs := by
  cases h with
  | null | false | true => exact ⟨_, _, rfl, by decide⟩
  | number h =>
    obtain ⟨d, more, hd, rfl | rfl⟩ := h.begins
    · exact beginsValue_of_isDigit hd more
    · exact ⟨_, _, rfl, by decide⟩
  | text h =>
    cases h
    exact ⟨_, _, rfl, by decide⟩
  | noItems | list | noMembers | object => exact ⟨_, _, rfl, by decide⟩

theorem SpellsItems.begins {items : List Tree} (h : SpellsItems items cs) : BeginsValue cs := by
  cases h with
  | last h hgap => exact h.begins.append _
  | more h => rw [List.append_assoc]; exact h.begins.append _

/-! ## What stands behind a value -/

/-- What may stand behind a value: nothing, a gap, a comma or a closing bracket. -/
def StopsValue (rest : List Char) : Prop :=
  ∀ c ∈ rest.head?, isGap c = true ∨ c = ',' ∨ c = ']' ∨ c = '\x7d'

theorem StopsValue.stopsNumber (h : StopsValue rest) : StopsNumber rest := by
  intro c hc
  rcases h c hc with hgap | rfl | rfl | rfl
  · have : c = ' ' ∨ c = '\t' ∨ c = '\n' ∨ c = '\r' := by simpa [isGap, or_assoc] using hgap
    rcases this with rfl | rfl | rfl | rfl <;> decide
  all_goals decide

theorem StopsValue.gap_append (hgap : IsGap gap) (h : StopsValue rest) :
    StopsValue (gap ++ rest) := by
  cases gap with
  | nil => exact h
  | cons c gap =>
    rintro _ ⟨⟩
    exact .inl (hgap c List.mem_cons_self)

/-- What may stand behind a value stands behind it and a gap. -/
theorem stopsValue_append_cons {c : Char} (hgap : IsGap gap) (hc : c = ',' ∨ c = ']' ∨ c = '\x7d') :
    StopsValue (gap ++ c :: rest) :=
  .gap_append hgap (by rintro _ ⟨⟩; exact .inr hc)

theorem skip_cons {c : Char} (hgap : IsGap gap) (hc : isGap c = false) :
    Cursor.skip ⟨place, gap ++ c :: rest⟩ = ⟨place + gap.length, c :: rest⟩ := by
  rw [Cursor.skip, List.takeWhile_append_of_stop hgap (by rintro _ ⟨⟩; exact hc), List.drop_left]

theorem skip_value (hgap : IsGap gap) (h : BeginsValue cs) :
    Cursor.skip ⟨place, gap ++ cs⟩ = ⟨place + gap.length, cs⟩ := by
  obtain ⟨c, more, rfl, hc, -⟩ := h
  exact skip_cons hgap hc

/-! ## Scalars -/

/-- A lexeme is none of the words, and begins with none. -/
theorem IsNumber.dropWord?_append (h : IsNumber isFloat lexeme) (rest : List Char) :
    ∀ word ∈ ["null", "true", "false"] ++ namedNumbers, dropWord? word (lexeme ++ rest) = none := by
  obtain ⟨d, more, hd, hlexeme⟩ := h.begins
  have hletters : ∀ c ∈ ['n', 't', 'f', 'N', 'I', '-'], isDigit c = false := by
    simp [isDigit, asciiDigit?]
  have hdigit : ∀ c ∈ ['n', 't', 'f', 'N', 'I', '-'], c ≠ d :=
    fun c hc => (ne_of_isDigit hd (hletters c hc)).symm
  intro word hword
  rw [dropWord?_eq_none_iff]
  simp only [namedNumbers, List.mem_append, List.mem_cons, List.not_mem_nil, or_false] at hword
  rcases hlexeme with rfl | rfl <;>
    rcases hword with (rfl | rfl | rfl) | (rfl | rfl | rfl) <;>
    simp [hdigit, List.cons_prefix_cons]

theorem readScalar_null : readScalar strict ⟨place, "null".toList ++ rest⟩ =
    .ok (.null, ⟨place + 4, rest⟩) := by
  simp [readScalar, dropWord?, strict]

theorem readScalar_true : readScalar strict ⟨place, "true".toList ++ rest⟩ =
    .ok (.bool true, ⟨place + 4, rest⟩) := by
  simp [readScalar, dropWord?, strict]

theorem readScalar_false : readScalar strict ⟨place, "false".toList ++ rest⟩ =
    .ok (.bool false, ⟨place + 5, rest⟩) := by
  simp [readScalar, dropWord?, strict]

theorem strict_number (h : IsNumber isFloat lexeme) :
    strict.number isFloat lexeme = .ok (.ofLexeme isFloat lexeme) := by
  refine if_neg fun hname => ?_
  have hnone := h.dropWord?_append [] _ (List.mem_append_right _ hname)
  rw [dropWord?_eq_none_iff, String.toList_ofList, List.append_nil] at hnone
  exact hnone (List.prefix_refl _)

theorem readScalar_number (h : IsNumber isFloat lexeme) (hrest : StopsNumber rest) :
    readScalar strict ⟨place, lexeme ++ rest⟩ =
      .ok (.ofLexeme isFloat lexeme, ⟨place + lexeme.length, rest⟩) := by
  have hword := h.dropWord?_append rest
  have hnames : (namedNumbers.findSome? fun name =>
      (dropWord? name (lexeme ++ rest)).map (name, ·)) = none := by
    refine List.findSome?_eq_none_iff.mpr fun name hname => ?_
    rw [hword name (List.mem_append_right _ hname), Option.map_none]
  rw [readScalar, hword "null" (by simp), hword "true" (by simp), hword "false" (by simp)]
  simp only [hnames, scanNumber?_append h hrest, strict_number h]
  rfl

/-- What begins with no quote and no bracket is a scalar. -/
theorem readValue_scalar (h : ∀ c ∈ cs.head?, c ≠ '"' ∧ c ≠ '[' ∧ c ≠ '\x7b') :
    readValue strict (fuel + 1) ⟨place, cs⟩ = readScalar strict ⟨place, cs⟩ := by
  unfold readValue
  split <;> simp_all

/-! ## Strings and brackets -/

theorem readString_spells {s : String} (h : SpellsString s cs) (place : Nat) (rest : List Char) :
    ∃ more, cs = '"' :: more ∧
      readString place ⟨place + 1, more ++ rest⟩ [] = .ok (s, ⟨place + cs.length, rest⟩) := by
  cases h with | @mk text h =>
  refine ⟨text ++ ['"'], rfl, ?_⟩
  have hplace : place + ('"' :: (text ++ ['"'])).length = place + 1 + text.length + 1 := by
    simp only [List.length_cons, List.length_append, List.length_nil]
    omega
  rw [List.append_assoc, List.singleton_append, hplace]
  exact readString_append h

theorem readValue_text {s : String} (h : SpellsString s cs) :
    readValue strict (fuel + 1) ⟨place, cs ++ rest⟩ = .ok (.text s, ⟨place + cs.length, rest⟩) := by
  obtain ⟨more, hcs, hstring⟩ := readString_spells h place rest
  rw [hcs, List.cons_append]
  simp only [readValue, hstring, hcs]
  rfl

theorem readValue_noItems (hgap : IsGap gap) :
    readValue strict (fuel + 1) ⟨place, '[' :: (gap ++ ']' :: rest)⟩ =
      .ok (.list [], ⟨place + 1 + gap.length + 1, rest⟩) := by
  have hskip : Cursor.skip ⟨place + 1, gap ++ ']' :: rest⟩ =
      ⟨place + 1 + gap.length, ']' :: rest⟩ := skip_cons hgap (by decide)
  simp only [readValue, hskip]
  rfl

/-- Behind an opening bracket and a gap the items are read. -/
theorem readValue_items (hgap : IsGap gap) (h : BeginsValue cs) :
    readValue strict (fuel + 1) ⟨place, '[' :: (gap ++ cs)⟩ = do
      let (items, c) ← readItems strict fuel ⟨place + 1 + gap.length, cs⟩
      return (.list items, c) := by
  have hskip : Cursor.skip ⟨place + 1, gap ++ cs⟩ = ⟨place + 1 + gap.length, cs⟩ :=
    skip_value hgap h
  obtain ⟨c, more, rfl, -, hclosing, -⟩ := h
  simp only [readValue, hskip]
  split
  · next heq =>
    cases heq
    exact absurd rfl hclosing
  · rfl

theorem readValue_noMembers (hgap : IsGap gap) :
    readValue strict (fuel + 1) ⟨place, '\x7b' :: (gap ++ '\x7d' :: rest)⟩ =
      .ok (.object [], ⟨place + 1 + gap.length + 1, rest⟩) := by
  have hskip : Cursor.skip ⟨place + 1, gap ++ '\x7d' :: rest⟩ =
      ⟨place + 1 + gap.length, '\x7d' :: rest⟩ := skip_cons hgap (by decide)
  simp only [readValue, hskip]
  rfl

/-- Behind an opening brace and a gap the members are read. -/
theorem readValue_members (hgap : IsGap gap) (h : BeginsValue cs) :
    readValue strict (fuel + 1) ⟨place, '\x7b' :: (gap ++ cs)⟩ = do
      let (members, c) ← readMembers strict fuel ⟨place + 1 + gap.length, cs⟩
      return (.object (OrderedMap.ofList members), c) := by
  have hskip : Cursor.skip ⟨place + 1, gap ++ cs⟩ = ⟨place + 1 + gap.length, cs⟩ :=
    skip_value hgap h
  obtain ⟨c, more, rfl, -, -, hclosing, -⟩ := h
  simp only [readValue, hskip]
  split
  · next heq =>
    cases heq
    exact absurd rfl hclosing
  · rfl

/-! ## Items and members -/

section Step

variable {value : List Char} {behind : Nat}

theorem readItems_last (hgap : IsGap gap)
    (hvalue : readValue strict fuel ⟨place, value⟩ = .ok (t, ⟨behind, gap ++ ']' :: rest⟩)) :
    readItems strict (fuel + 1) ⟨place, value⟩ = .ok ([t], ⟨behind + gap.length + 1, rest⟩) := by
  have hskip : Cursor.skip ⟨behind, gap ++ ']' :: rest⟩ = ⟨behind + gap.length, ']' :: rest⟩ :=
    skip_cons hgap (by decide)
  simp only [readItems, hvalue, bind, Except.bind, hskip]
  rfl

theorem readItems_more {gap' : List Char} (hgap : IsGap gap) (hgap' : IsGap gap')
    (hcs : BeginsValue cs)
    (hvalue : readValue strict fuel ⟨place, value⟩ =
      .ok (t, ⟨behind, gap ++ ',' :: (gap' ++ cs)⟩)) :
    readItems strict (fuel + 1) ⟨place, value⟩ = do
      let (items, c) ← readItems strict fuel ⟨behind + gap.length + 1 + gap'.length, cs⟩
      return (t :: items, c) := by
  have hskip : Cursor.skip ⟨behind, gap ++ ',' :: (gap' ++ cs)⟩ =
      ⟨behind + gap.length, ',' :: (gap' ++ cs)⟩ := skip_cons hgap (by decide)
  have hskip' : Cursor.skip ⟨behind + gap.length + 1, gap' ++ cs⟩ =
      ⟨behind + gap.length + 1 + gap'.length, cs⟩ := skip_value hgap' hcs
  simp only [readItems, hvalue, bind, Except.bind, hskip, hskip']

/-- A name is read up to its colon, and the gap behind the colon up to the value. -/
theorem readString_named {name : String} {quoted before after : List Char}
    (hname : SpellsString name quoted) (hbefore : IsGap before) (hafter : IsGap after)
    (hvalue : BeginsValue value) (place : Nat) :
    ∃ more c, quoted ++ before ++ ':' :: (after ++ value) = '"' :: more ∧
      readString place ⟨place + 1, more⟩ [] = .ok (name, c) ∧
      c.skip = ⟨place + quoted.length + before.length, ':' :: (after ++ value)⟩ ∧
      Cursor.skip ⟨place + quoted.length + before.length + 1, after ++ value⟩ =
        ⟨place + quoted.length + before.length + 1 + after.length, value⟩ := by
  obtain ⟨more, rfl, hstring⟩ :=
    readString_spells hname place (before ++ ':' :: (after ++ value))
  refine ⟨_, _, ?_, hstring, skip_cons hbefore (by decide), skip_value hafter hvalue⟩
  rw [List.append_assoc, List.cons_append]

theorem readMembers_last {name : String} {quoted before after : List Char}
    (hname : SpellsString name quoted) (hbefore : IsGap before) (hafter : IsGap after)
    (hbegins : BeginsValue value) (hgap : IsGap gap)
    (hvalue : readValue strict fuel
        ⟨place + quoted.length + before.length + 1 + after.length, value⟩ =
      .ok (t, ⟨behind, gap ++ '\x7d' :: rest⟩)) :
    readMembers strict (fuel + 1) ⟨place, quoted ++ before ++ ':' :: (after ++ value)⟩ =
      .ok ([(name, t)], ⟨behind + gap.length + 1, rest⟩) := by
  have hskip : Cursor.skip ⟨behind, gap ++ '\x7d' :: rest⟩ =
      ⟨behind + gap.length, '\x7d' :: rest⟩ := skip_cons hgap (by decide)
  obtain ⟨more, c, htext, hstring, hcolon, hfirst⟩ :=
    readString_named hname hbefore hafter hbegins place
  rw [htext]
  simp only [readMembers, hstring, Except.mapError, bind, Except.bind, hcolon, hfirst, hvalue,
    hskip]
  rfl

theorem readMembers_more {name : String} {quoted before after gap' : List Char}
    (hname : SpellsString name quoted) (hbefore : IsGap before) (hafter : IsGap after)
    (hbegins : BeginsValue value) (hgap : IsGap gap) (hgap' : IsGap gap') (hcs : BeginsValue cs)
    (hvalue : readValue strict fuel
        ⟨place + quoted.length + before.length + 1 + after.length, value⟩ =
      .ok (t, ⟨behind, gap ++ ',' :: (gap' ++ cs)⟩)) :
    readMembers strict (fuel + 1) ⟨place, quoted ++ before ++ ':' :: (after ++ value)⟩ = do
      let (members, c) ← readMembers strict fuel ⟨behind + gap.length + 1 + gap'.length, cs⟩
      return ((name, t) :: members, c) := by
  have hskip : Cursor.skip ⟨behind, gap ++ ',' :: (gap' ++ cs)⟩ =
      ⟨behind + gap.length, ',' :: (gap' ++ cs)⟩ := skip_cons hgap (by decide)
  have hskip' : Cursor.skip ⟨behind + gap.length + 1, gap' ++ cs⟩ =
      ⟨behind + gap.length + 1 + gap'.length, cs⟩ := skip_value hgap' hcs
  obtain ⟨more, c, htext, hstring, hcolon, hfirst⟩ :=
    readString_named hname hbefore hafter hbegins place
  rw [htext]
  simp only [readMembers, hstring, Except.mapError, bind, Except.bind, hcolon, hfirst, hvalue,
    hskip, hskip']

end Step

/-! ## Trees -/

theorem length_bracketed (opening closing : Char) (gap cs : List Char) :
    (opening :: (gap ++ cs ++ [closing])).length = gap.length + cs.length + 2 := by
  simp only [List.length_cons, List.length_append, List.length_nil]

theorem SpellsMembers.begins {members : List (String × Tree)} (h : SpellsMembers members cs) :
    BeginsValue cs := by
  have hstring : ∀ {name : String} {quoted : List Char} (more : List Char),
      SpellsString name quoted → BeginsValue (quoted ++ more) := by
    rintro _ _ more ⟨h⟩
    exact ⟨_, _, rfl, by decide⟩
  cases h with
  | last hname => rw [List.append_assoc]; exact hstring _ hname
  | more hname => rw [List.append_assoc]; exact hstring _ hname

mutual

/-- The text of a value is read, and the reader stops right behind it. -/
theorem readValue_append {t : Tree} {cs rest : List Char} {fuel place : Nat}
    (h : Spells t cs) (hfuel : cs.length ≤ fuel) (hrest : StopsValue rest) :
    readValue strict fuel ⟨place, cs ++ rest⟩ = .ok (t, ⟨place + cs.length, rest⟩) := by
  have hpos := h.begins.length_pos
  obtain ⟨fuel, rfl⟩ : ∃ n, fuel = n + 1 := ⟨fuel - 1, by omega⟩
  match h with
  | .null =>
    rw [readValue_scalar (by simp), readScalar_null]
    rfl
  | .true =>
    rw [readValue_scalar (by simp), readScalar_true]
    rfl
  | .false =>
    rw [readValue_scalar (by simp), readScalar_false]
    rfl
  | .number h =>
    rw [readValue_scalar h.begins_scalar, readScalar_number h hrest.stopsNumber]
  | .text h => exact readValue_text h
  | @Spells.noItems gap hgap =>
    have hshape : '[' :: (gap ++ [']']) ++ rest = '[' :: (gap ++ ']' :: rest) := by simp
    have hplace : place + ('[' :: (gap ++ [']'])).length = place + 1 + gap.length + 1 := by
      simp only [List.length_cons, List.length_append, List.length_nil]
      omega
    rw [hshape, hplace, readValue_noItems hgap]
  | @Spells.list items gap cs hgap hitems =>
    have hshape : '[' :: (gap ++ cs ++ [']']) ++ rest = '[' :: (gap ++ (cs ++ ']' :: rest)) := by
      simp
    rw [length_bracketed] at hfuel
    have hplace : place + ('[' :: (gap ++ cs ++ [']'])).length =
        place + 1 + gap.length + cs.length + 1 := by
      rw [length_bracketed]
      omega
    rw [hshape, hplace, readValue_items hgap (hitems.begins.append _),
      readItems_append hitems (by omega)]
    rfl
  | @Spells.noMembers gap hgap =>
    have hshape : '\x7b' :: (gap ++ ['\x7d']) ++ rest = '\x7b' :: (gap ++ '\x7d' :: rest) := by
      simp
    have hplace : place + ('\x7b' :: (gap ++ ['\x7d'])).length = place + 1 + gap.length + 1 := by
      simp only [List.length_cons, List.length_append, List.length_nil]
      omega
    rw [hshape, hplace, readValue_noMembers hgap]
  | @Spells.object members gap cs hgap hmembers =>
    have hshape : '\x7b' :: (gap ++ cs ++ ['\x7d']) ++ rest =
        '\x7b' :: (gap ++ (cs ++ '\x7d' :: rest)) := by
      simp
    rw [length_bracketed] at hfuel
    have hplace : place + ('\x7b' :: (gap ++ cs ++ ['\x7d'])).length =
        place + 1 + gap.length + cs.length + 1 := by
      rw [length_bracketed]
      omega
    rw [hshape, hplace, readValue_members hgap (hmembers.begins.append _),
      readMembers_append hmembers (by omega)]
    rfl
termination_by structural h

/-- The texts of items are read, and the closing bracket behind them. -/
theorem readItems_append {items : List Tree} {cs rest : List Char} {fuel place : Nat}
    (h : SpellsItems items cs) (hfuel : cs.length < fuel) :
    readItems strict fuel ⟨place, cs ++ ']' :: rest⟩ =
      .ok (items, ⟨place + cs.length + 1, rest⟩) := by
  obtain ⟨fuel, rfl⟩ : ∃ n, fuel = n + 1 := ⟨fuel - 1, by omega⟩
  match h with
  | @SpellsItems.last t cs gap hvalue hgap =>
    rw [List.length_append] at hfuel
    have hread : readValue strict fuel ⟨place, cs ++ (gap ++ ']' :: rest)⟩ =
        .ok (t, ⟨place + cs.length, gap ++ ']' :: rest⟩) :=
      readValue_append hvalue (by omega) (stopsValue_append_cons hgap (by simp))
    rw [List.append_assoc, readItems_last hgap hread, List.length_append, Nat.add_assoc place]
  | @SpellsItems.more t items cs gap gap' more hvalue hgap hgap' hitems =>
    simp only [List.length_append, List.length_cons] at hfuel
    have hread : readValue strict fuel
        ⟨place, cs ++ (gap ++ ',' :: (gap' ++ (more ++ ']' :: rest)))⟩ =
        .ok (t, ⟨place + cs.length, gap ++ ',' :: (gap' ++ (more ++ ']' :: rest))⟩) :=
      readValue_append hvalue (by omega) (stopsValue_append_cons hgap (by simp))
    have hshape : cs ++ gap ++ ',' :: (gap' ++ more) ++ ']' :: rest =
        cs ++ (gap ++ ',' :: (gap' ++ (more ++ ']' :: rest))) := by simp
    have hplace : place + (cs ++ gap ++ ',' :: (gap' ++ more)).length + 1 =
        place + cs.length + gap.length + 1 + gap'.length + more.length + 1 := by
      simp only [List.length_append, List.length_cons]
      omega
    rw [hshape, hplace, readItems_more hgap hgap' (hitems.begins.append _) hread,
      readItems_append hitems (by omega)]
    rfl
termination_by structural h

/-- The texts of members are read, and the closing brace behind them. -/
theorem readMembers_append {members : List (String × Tree)} {cs rest : List Char}
    {fuel place : Nat} (h : SpellsMembers members cs) (hfuel : cs.length < fuel) :
    readMembers strict fuel ⟨place, cs ++ '\x7d' :: rest⟩ =
      .ok (members, ⟨place + cs.length + 1, rest⟩) := by
  obtain ⟨fuel, rfl⟩ : ∃ n, fuel = n + 1 := ⟨fuel - 1, by omega⟩
  match h with
  | @SpellsMembers.last name t quoted before after cs gap hname hbefore hafter hvalue hgap =>
    simp only [List.length_append, List.length_cons] at hfuel
    have hread : readValue strict fuel
        ⟨place + quoted.length + before.length + 1 + after.length, cs ++ (gap ++ '\x7d' :: rest)⟩ =
        .ok (t, ⟨place + quoted.length + before.length + 1 + after.length + cs.length,
          gap ++ '\x7d' :: rest⟩) :=
      readValue_append hvalue (by omega) (stopsValue_append_cons hgap (by simp))
    have hshape : quoted ++ before ++ ':' :: (after ++ cs ++ gap) ++ '\x7d' :: rest =
        quoted ++ before ++ ':' :: (after ++ (cs ++ (gap ++ '\x7d' :: rest))) := by simp
    have hplace : place + (quoted ++ before ++ ':' :: (after ++ cs ++ gap)).length + 1 =
        place + quoted.length + before.length + 1 + after.length + cs.length + gap.length + 1 := by
      simp only [List.length_append, List.length_cons]
      omega
    rw [hshape, hplace,
      readMembers_last hname hbefore hafter (hvalue.begins.append _) hgap hread]
  | @SpellsMembers.more name t members quoted before after cs gap gap' more hname hbefore hafter
      hvalue hgap hgap' hmembers =>
    simp only [List.length_append, List.length_cons] at hfuel
    have hread : readValue strict fuel ⟨place + quoted.length + before.length + 1 + after.length,
          cs ++ (gap ++ ',' :: (gap' ++ (more ++ '\x7d' :: rest)))⟩ =
        .ok (t, ⟨place + quoted.length + before.length + 1 + after.length + cs.length,
          gap ++ ',' :: (gap' ++ (more ++ '\x7d' :: rest))⟩) :=
      readValue_append hvalue (by omega) (stopsValue_append_cons hgap (by simp))
    have hshape : quoted ++ before ++ ':' :: (after ++ cs ++ gap ++ ',' :: (gap' ++ more)) ++
        '\x7d' :: rest = quoted ++ before ++
          ':' :: (after ++ (cs ++ (gap ++ ',' :: (gap' ++ (more ++ '\x7d' :: rest))))) := by simp
    have hplace : place +
        (quoted ++ before ++ ':' :: (after ++ cs ++ gap ++ ',' :: (gap' ++ more))).length + 1 =
        place + quoted.length + before.length + 1 + after.length + cs.length + gap.length + 1 +
          gap'.length + more.length + 1 := by
      simp only [List.length_append, List.length_cons]
      omega
    rw [hshape, hplace, readMembers_more hname hbefore hafter (hvalue.begins.append _) hgap hgap'
      (hmembers.begins.append _) hread, readMembers_append hmembers (by omega)]
    rfl
termination_by structural h

end

/-! ## Whole texts -/

/-- A text of the grammar does not begin with a byte order mark. -/
theorem ne_byteOrderMark (hgap : IsGap gap) (h : BeginsValue cs) (more : List Char) :
    gap ++ cs ≠ '\ufeff' :: more := by
  intro heq
  cases gap with
  | nil =>
    obtain ⟨c, tail, rfl, -, -, -, hmark⟩ := h
    cases heq
    exact hmark rfl
  | cons c gap =>
    cases heq
    exact absurd (hgap _ List.mem_cons_self) (by decide)

/-- **Every text of a tree is read as this tree**, with gaps around it. -/
theorem read_of_spells {gap' : List Char} (h : Spells t cs) (hgap : IsGap gap)
    (hgap' : IsGap gap') : read strict (gap ++ cs ++ gap') = .ok t := by
  have hstop : StopsValue gap' := by
    have hnil : StopsValue [] := by simp [StopsValue]
    simpa using hnil.gap_append hgap'
  have hskip : Cursor.skip ⟨0, gap ++ (cs ++ gap')⟩ = ⟨0 + gap.length, cs ++ gap'⟩ :=
    skip_value hgap (h.begins.append gap')
  have hvalue : readValue strict (2 * (gap ++ (cs ++ gap')).length + 2)
      ⟨0 + gap.length, cs ++ gap'⟩ = .ok (t, ⟨0 + gap.length + cs.length, gap'⟩) := by
    refine readValue_append h ?_ hstop
    simp only [List.length_append]
    omega
  have hend : (Cursor.skip ⟨0 + gap.length + cs.length, gap'⟩).rest = [] := by
    have htake : gap'.takeWhile isGap = gap' := List.takeWhile_eq_self_iff.mpr hgap'
    rw [Cursor.skip, htake, List.drop_length]
  rw [List.append_assoc, read]
  · simp only [hskip, hvalue, bind, Except.bind, hend]
    rfl
  · exact ne_byteOrderMark hgap (h.begins.append gap')

/-- A text says one thing only. -/
theorem Spells.unique {t' : Tree} (h : Spells t cs) (h' : Spells t' cs) : t = t' := by
  have hread : ∀ {u : Tree}, Spells u cs → read strict cs = .ok u := fun hu => by
    simpa using read_of_spells hu isGap_nil isGap_nil
  exact Except.ok.inj ((hread h).symm.trans (hread h'))

end Polystore.Json
