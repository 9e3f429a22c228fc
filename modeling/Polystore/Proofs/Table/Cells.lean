import Polystore.Proofs.Table.Documents

/-!
# Tables cell by cell

A table is known by its cells: what stands in a row and a column. Tabulating puts every native cell
where it came from, normalized under its own type, and it fails only at the first row that is not as
wide as the first one.

* `cellAt?`, `changeAt`: one cell of rows, and changing it alone;
* `Table.build_eq_ok_iff`, `Table.firstRagged?_eq_some_iff`: building a table, and when it fails;
* `Tabulated`, **`tabulate_eq_ok_iff`**: the table that is tabulated;
* `FirstRagged`, **`tabulate_eq_error_iff`**: the row that is not;
* `CellsApart`, **`cellsApart_of_tabulate`**: a native cell counts for one cell only.
-/

namespace Polystore

/-! ## Cells of rows -/

section Cells

variable {α β : Type} {rows rows' : List (List α)} {i j i' j' : Nat}

/-- What stands in a row and a column, if anything does. -/
def cellAt? (rows : List (List α)) (i j : Nat) : Option α := rows[i]?.bind (·[j]?)

/-- Rows with a change in one place. -/
def changeAt (i j : Nat) (change : α → α) (rows : List (List α)) : List (List α) :=
  rows.modify i (·.modify j change)

theorem exists_of_cellAt? {x : α} (h : cellAt? rows i j = some x) :
    ∃ row ∈ rows, row[j]? = some x := by
  obtain ⟨row, hrow, hx⟩ := Option.bind_eq_some_iff.mp h
  exact ⟨row, List.mem_of_getElem? hrow, hx⟩

@[simp] theorem cellAt?_map (f : α → β) (rows : List (List α)) (i j : Nat) :
    cellAt? (rows.map (·.map f)) i j = (cellAt? rows i j).map f := by
  simp only [cellAt?, List.getElem?_map]
  cases rows[i]? with
  | none => rfl
  | some row => simp

theorem cellAt?_zipWith {γ δ : Type} (make : γ → α → δ) (columns : List γ)
    (rows : List (List α)) (i j : Nat) :
    cellAt? (rows.map fun row => List.zipWith make columns row) i j =
      (cellAt? rows i j).bind fun x => columns[j]?.map fun column => make column x := by
  simp only [cellAt?, List.getElem?_map]
  cases rows[i]? with
  | none => rfl
  | some row =>
    simp only [Option.map_some, Option.bind_some, List.getElem?_zipWith]
    cases row[j]? <;> cases columns[j]? <;> rfl

/-- A change shows in its own place, and in no other. -/
theorem cellAt?_changeAt (change : α → α) (rows : List (List α)) :
    cellAt? (changeAt i j change rows) i' j' =
      if i = i' ∧ j = j' then (cellAt? rows i j).map change else cellAt? rows i' j' := by
  simp only [cellAt?, changeAt, List.getElem?_modify]
  by_cases hi : i = i'
  · subst hi
    cases rows[i]? with
    | none => simp
    | some row =>
      by_cases hj : j = j'
      · subst hj
        simp
      · simp [hj]
  · cases rows[i']? <;> simp [hi]

/-- Rows that have the same cells, and are as many, are the same. -/
theorem eq_of_cellAt? (hlength : rows.length = rows'.length)
    (hcells : ∀ i j, cellAt? rows i j = cellAt? rows' i j) : rows = rows' := by
  refine List.ext_getElem hlength fun i hi hi' => List.ext_getElem? fun j => ?_
  simpa [cellAt?, hi, hi'] using hcells i j

end Cells

/-! ## Building tables -/

/-- The first row of all that is not as wide as expected. -/
structure FirstRagged {α : Type} (width : Nat) (rows : List (List α)) (r : Ragged) : Prop where
  expected : r.expected = width
  found : ∃ row, rows[r.row]? = some row ∧ row.length = r.width
  ragged : r.width ≠ width
  least : ∀ k < r.row, ∀ row, rows[k]? = some row → row.length = width

theorem firstRagged_map {α β : Type} {f : α → β} {width : Nat} {rows : List (List α)}
    {r : Ragged} : FirstRagged width (rows.map (·.map f)) r ↔ FirstRagged width rows r := by
  constructor
  · rintro ⟨hexpected, hrow, hragged, hleast⟩
    exact ⟨hexpected, by simpa using hrow, hragged, by simpa using hleast⟩
  · rintro ⟨hexpected, hrow, hragged, hleast⟩
    exact ⟨hexpected, by simpa using hrow, hragged, by simpa using hleast⟩

section Search

variable {α : Type} {row : List α} {rest : List (List α)} {width k w e : Nat} {r : Ragged}

/-- Behind a row of the expected width the search goes on. -/
theorem firstRagged_cons_succ (h : row.length = width) :
    FirstRagged width (row :: rest) ⟨k + 1, w, e⟩ ↔ FirstRagged width rest ⟨k, w, e⟩ := by
  constructor
  · rintro ⟨hexpected, hfound, hragged, hleast⟩
    exact ⟨hexpected, hfound, hragged, fun k' hk' => hleast (k' + 1) (Nat.succ_lt_succ hk')⟩
  · rintro ⟨hexpected, hfound, hragged, hleast⟩
    refine ⟨hexpected, hfound, hragged, fun k' hk' row' hrow' => ?_⟩
    cases k' with
    | zero => exact Option.some.inj hrow' ▸ h
    | succ k' => exact hleast k' (Nat.lt_of_succ_lt_succ hk') row' hrow'

theorem not_firstRagged_cons_zero (h : row.length = width) :
    ¬ FirstRagged width (row :: rest) ⟨0, w, e⟩ := by
  rintro ⟨-, ⟨row', hrow', hwidth⟩, hragged, -⟩
  obtain rfl : row = row' := Option.some.inj hrow'
  exact hragged (hwidth.symm.trans h)

/-- At any other row the search ends. -/
theorem firstRagged_cons_of_ne (h : row.length ≠ width) :
    FirstRagged width (row :: rest) r ↔ r = ⟨0, row.length, width⟩ := by
  constructor
  · obtain ⟨k, w, e⟩ := r
    rintro ⟨hexpected, ⟨row', hrow', hwidth⟩, -, hleast⟩
    cases k with
    | zero =>
      obtain rfl : row = row' := Option.some.inj hrow'
      rw [Ragged.mk.injEq]
      exact ⟨rfl, hwidth.symm, hexpected⟩
    | succ k => exact absurd (hleast 0 (Nat.succ_pos k) row rfl) h
  · rintro rfl
    exact ⟨rfl, ⟨row, rfl, rfl⟩, h, fun k hk => absurd hk (Nat.not_lt_zero k)⟩

end Search

namespace Table

variable {columns : List Column} {rows : List (List Value)} {expected i place w e : Nat}
  {r : Ragged} {t : Table}

/-- The search for a ragged row tells where it is, counting on from `i`. -/
theorem firstRagged?_eq_some_iff : firstRagged? expected i rows = some ⟨place, w, e⟩ ↔
    ∃ k, place = i + k ∧ FirstRagged expected rows ⟨k, w, e⟩ := by
  induction rows generalizing i with
  | nil =>
    refine iff_of_false nofun ?_
    rintro ⟨k, -, -, ⟨row, hrow, -⟩, -, -⟩
    cases hrow
  | cons row rest ih =>
    by_cases hrow : row.length = expected
    · rw [firstRagged?, if_pos hrow, ih]
      constructor
      · rintro ⟨k, hk, hrest⟩
        exact ⟨k + 1, by omega, (firstRagged_cons_succ hrow).mpr hrest⟩
      · rintro ⟨k, hk, hall⟩
        cases k with
        | zero => exact absurd hall (not_firstRagged_cons_zero hrow)
        | succ k => exact ⟨k, by omega, (firstRagged_cons_succ hrow).mp hall⟩
    · rw [firstRagged?, if_neg hrow, Option.some.injEq]
      simp only [firstRagged_cons_of_ne hrow, Ragged.mk.injEq]
      constructor
      · rintro ⟨rfl, rfl, rfl⟩
        exact ⟨0, rfl, rfl, rfl, rfl⟩
      · rintro ⟨k, hk, rfl, rfl, rfl⟩
        exact ⟨hk.symm, rfl, rfl⟩

theorem build_eq_ok_iff : build columns rows = .ok t ↔ t.columns = columns ∧ t.rows = rows := by
  constructor
  · intro h
    unfold build at h
    split at h
    · cases h
      exact ⟨rfl, rfl⟩
    · cases h
  · rintro ⟨rfl, rfl⟩
    exact build_of_width _ _ t.width

theorem build_eq_error_iff :
    build columns rows = .error r ↔ FirstRagged columns.length rows r := by
  have hsearch : firstRagged? columns.length 0 rows = some r ↔
      FirstRagged columns.length rows r := by
    obtain ⟨place, w, e⟩ := r
    rw [firstRagged?_eq_some_iff]
    simp
  rw [← hsearch]
  unfold build
  split
  case h_1 hnone =>
    refine iff_of_false nofun fun hsome => ?_
    rw [hnone] at hsome
    cases hsome
  case h_2 ragged hsome => rw [hsome, Except.error.injEq, Option.some.injEq]

end Table

/-! ## Tabulating -/

variable {rows : List (List NativeCell)} {t : Table} {r : Ragged}

/-- The number of cells of the first row. -/
def firstWidth (rows : List (List NativeCell)) : Nat := (rows.headD []).length

/-- The table of native rows: its columns are those of the first row, and each cell is the normal
form of the native cell in its place, under the type of this cell. -/
structure Tabulated (rows : List (List NativeCell)) (t : Table) : Prop where
  columns : t.columns = (rows.headD []).map NativeCell.column
  count : t.rowCount = rows.length
  cells : ∀ i j, cellAt? t.rows i j =
    (cellAt? rows i j).map fun cell => normalize cell.value (some cell.column.type)

theorem tabulate_eq_build (rows : List (List NativeCell)) : tabulate rows =
    Table.build ((rows.headD []).map NativeCell.column) (rows.map (·.map NativeCell.normal)) := by
  cases rows with
  | nil => rfl
  | cons first rest => rfl

/-- **Tabulating loses, adds and moves no cell.** -/
theorem tabulate_eq_ok_iff : tabulate rows = .ok t ↔ Tabulated rows t := by
  rw [tabulate_eq_build, Table.build_eq_ok_iff]
  constructor
  · rintro ⟨hcolumns, hrows⟩
    refine ⟨hcolumns, ?_, fun i j => ?_⟩
    · rw [Table.rowCount, hrows, List.length_map]
    · rw [hrows, cellAt?_map]
      rfl
  · rintro ⟨hcolumns, hcount, hcells⟩
    refine ⟨hcolumns, eq_of_cellAt? ?_ fun i j => ?_⟩
    · rw [List.length_map]
      exact hcount
    · rw [hcells, cellAt?_map]
      rfl

/-- **Tabulating fails just at the first row that is not as wide as the first one.** -/
theorem tabulate_eq_error_iff :
    tabulate rows = .error r ↔ FirstRagged (firstWidth rows) rows r := by
  rw [tabulate_eq_build, Table.build_eq_error_iff, firstRagged_map, List.length_map]
  rfl

/-- The report on such a row. -/
example : Ragged.message ⟨2, 1, 3⟩ = "Row 2 has 1 values, expected 3" := by decide +kernel

/-- The rows of a table are as wide as the first one. -/
theorem even_of_tabulate (h : tabulate rows = .ok t) :
    ∀ row ∈ rows, row.length = firstWidth rows := by
  rw [tabulate_eq_build, Table.build_eq_ok_iff] at h
  intro row hrow
  have hwidth := t.width (row.map NativeCell.normal) (h.2 ▸ List.mem_map_of_mem hrow)
  simpa [h.1, firstWidth] using hwidth

/-- Rows of one width are as wide as the first one. -/
theorem even_of_width {width : Nat} (h : ∀ row ∈ rows, row.length = width) :
    ∀ row ∈ rows, row.length = firstWidth rows := by
  cases rows with
  | nil => exact nofun
  | cons first rest => exact fun row hrow => (h row hrow).trans (h first List.mem_cons_self).symm

theorem exists_tabulated (h : ∀ row ∈ rows, row.length = firstWidth rows) :
    ∃ t, tabulate rows = .ok t ∧ Tabulated rows t := by
  have hbuild := Table.build_of_width ((rows.headD []).map NativeCell.column)
    (rows.map (·.map NativeCell.normal)) (by simpa [firstWidth] using h)
  rw [← tabulate_eq_build] at hbuild
  exact ⟨_, hbuild, tabulate_eq_ok_iff.mp hbuild⟩

theorem exists_firstRagged (h : ∃ row ∈ rows, row.length ≠ firstWidth rows) :
    ∃ r, tabulate rows = .error r ∧ FirstRagged (firstWidth rows) rows r := by
  obtain ⟨row, hrow, hragged⟩ := h
  cases htable : tabulate rows with
  | error r => exact ⟨r, rfl, tabulate_eq_error_iff.mp htable⟩
  | ok t => exact absurd (even_of_tabulate htable row hrow) hragged

/-! ## Changing a value -/

/-- A native cell with another value. -/
def NativeCell.withValue (v : Value) (cell : NativeCell) : NativeCell := { cell with value := v }

/-- The names and types of the cells in their places. -/
def labelsOf (rows : List (List NativeCell)) : List (List Column) :=
  rows.map (·.map NativeCell.column)

theorem headD_labelsOf (rows : List (List NativeCell)) :
    (labelsOf rows).headD [] = (rows.headD []).map NativeCell.column := by
  cases rows <;> rfl

theorem even_iff_labelsOf : (∀ row ∈ rows, row.length = firstWidth rows) ↔
    ∀ row ∈ labelsOf rows, row.length = ((labelsOf rows).headD []).length := by
  rw [headD_labelsOf]
  simp [labelsOf, firstWidth]

/-- A change of a value changes no label. -/
theorem labelsOf_changeAt (i j : Nat) (v : Value) (rows : List (List NativeCell)) :
    labelsOf (changeAt i j (NativeCell.withValue v) rows) = labelsOf rows := by
  refine eq_of_cellAt? (by simp [labelsOf, changeAt]) fun i' j' => ?_
  rw [labelsOf, labelsOf, cellAt?_map, cellAt?_map, cellAt?_changeAt]
  split
  case isTrue h =>
    obtain ⟨rfl, rfl⟩ := h
    rw [Option.map_map]
    rfl
  case isFalse => rfl

/-- Each native cell counts for one cell of the table: another value of it changes the cell in its
place, under the same type, and no other cell. -/
def CellsApart (rows : List (List NativeCell)) (t : Table) : Prop :=
  ∀ i j v, ∃ t', tabulate (changeAt i j (NativeCell.withValue v) rows) = .ok t' ∧
    t'.columns = t.columns ∧ t'.rowCount = t.rowCount ∧
    ∀ i' j', cellAt? t'.rows i' j' =
      if i = i' ∧ j = j' then (cellAt? rows i j).map fun cell => normalize v (some cell.column.type)
      else cellAt? t.rows i' j'

/-- **No cell depends on another one.** -/
theorem cellsApart_of_tabulate (h : tabulate rows = .ok t) : CellsApart rows t := by
  intro i j v
  obtain ⟨hcolumns, hcount, hcells⟩ := tabulate_eq_ok_iff.mp h
  have hlabels := labelsOf_changeAt i j v rows
  have heven := even_iff_labelsOf.mp (even_of_tabulate h)
  rw [← hlabels] at heven
  obtain ⟨t', ht', hcolumns', hcount', hcells'⟩ := exists_tabulated (even_iff_labelsOf.mpr heven)
  refine ⟨t', ht', ?_, ?_, fun i' j' => ?_⟩
  · rw [hcolumns', hcolumns, ← headD_labelsOf, ← headD_labelsOf, hlabels]
  · rw [hcount', hcount, changeAt, List.length_modify]
  · rw [hcells', hcells, cellAt?_changeAt]
    split
    case isTrue => rw [Option.map_map]; rfl
    case isFalse => rfl

end Polystore
