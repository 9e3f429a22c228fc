import Polystore.Connection
import Polystore.Proofs.Native.Reported
import Polystore.Proofs.Table.Cells

/-!
# Records cell by cell

A relational client hands over records under a description of their columns, and each engine has its
own way to label a value: by the description, or by the value itself. The labels change from engine
to engine; that every value stays in its row and its column does not.

* `RecordSet.labelled`, `RecordSet.cells`: records with a label for every value;
* `Exchange.records?`: the records that a client hands over to be labelled;
* **`Relational.succeeds_fetch`**, `Relational.meets_execute`: what is made of them;
* `TabulatesCellwise`, `HandedOver`, **`Relational.cells_stay_in_place`**: from the records of a
  client to the cells of a table.
-/

namespace Polystore

open Session

/-! ## Labels -/

namespace RecordSet

/-- Records whose columns label values. -/
def labelled {γ : Type} (label : γ → Value → Column) (r : RecordSet γ) :
    RecordSet (Value → Column) :=
  ⟨r.columns.map label, r.rows⟩

/-- The values with their labels. -/
def cells (r : RecordSet (Value → Column)) : List (List NativeCell) :=
  r.rows.map fun row => List.zipWith (fun label v => ⟨label v, v⟩) r.columns row

theorem cells_labelled {γ : Type} (label : γ → Value → Column) (r : RecordSet γ) :
    (r.labelled label).cells =
      r.rows.map fun row => List.zipWith (fun column v => ⟨label column v, v⟩) r.columns row := by
  simp only [cells, labelled, List.zipWith_map_left]

theorem IsEven.labelled {γ : Type} {label : γ → Value → Column} {r : RecordSet γ}
    (h : r.IsEven) : (r.labelled label).IsEven := by
  intro row hrow
  rw [RecordSet.labelled, List.length_map]
  exact h row hrow

end RecordSet

/-- The label under the description of an embedded engine: a name, and no type. -/
def Sqlite.label (name : String) (v : Value) : Column := ⟨name, v.storageClass⟩

/-- The label under the description of a server that names types. -/
def Postgres.label (column : Column) (_ : Value) : Column := column

/-- The label under the description of a server that has codes for types. -/
def Mysql.label (column : String × Int) (_ : Value) : Column := ⟨column.1, typeName column.2⟩

/-- The records that a client hands over, with the labels of its engine. -/
def Exchange.records? : Exchange → Option (RecordSet (Value → Column))
  | ⟨⟨_, .sqlite (.execute _)⟩, .ok r⟩ => some (RecordSet.labelled Sqlite.label r)
  | ⟨⟨_, .postgres (.prepare _)⟩, .ok r⟩ => some (RecordSet.labelled Postgres.label r)
  | ⟨⟨_, .mysql (.execute ..)⟩, .ok r⟩ => some (RecordSet.labelled Mysql.label r)
  | _ => none

/-! ## Engines -/

namespace Exchange

variable {α γ : Type}

/-- One client hands over records once, under the labels of its engine. -/
def Deliver (label : γ → Value → Column) (xs : List Exchange) (r : RecordSet γ) : Prop :=
  xs.filterMap records? = [r.labelled label]

/-- No records are handed over. -/
def Silent (xs : List Exchange) (_ : α) : Prop := xs.filterMap records? = []

/-- The rows are the cells of the records that are handed over. -/
def Fetched (xs : List Exchange) (rows : List (List NativeCell)) : Prop :=
  ∃ r, xs.filterMap records? = [r] ∧ rows = r.cells

variable {label : γ → Value → Column} {xs ys : List Exchange} {r : RecordSet γ}

theorem Silent.append {x : α} {y : γ} (h : Silent xs x) (h' : Silent ys y) :
    Silent (xs ++ ys) x := by
  rw [Silent, List.filterMap_append, h, h', List.append_nil]

theorem Deliver.append {y : α} (h : Deliver label xs r) (h' : Silent ys y) :
    Deliver label (xs ++ ys) r := by
  rw [Deliver, List.filterMap_append, h, h', List.append_nil]

theorem Deliver.fetched (h : Deliver label xs r) : Fetched xs
    (r.rows.map fun row => List.zipWith (fun column v => ⟨label column v, v⟩) r.columns row) :=
  ⟨_, h, (r.cells_labelled label).symm⟩

end Exchange

open Exchange

variable {n : Nat} {sql : String}

theorem Sqlite.succeeds_fetch : (fetch n sql).Succeeds Fetched := by
  have hclosing : (atEnd (ask n .fetchAll) (ask n .closeCursor)).Succeeds Silent :=
    .atEnd (Q := Silent) (C := Silent) (.ask fun _ => rfl) (.ask fun _ => rfl)
      fun _ _ _ h h' => h.append h'
  have hrecords : (records n sql).Succeeds (Deliver label) :=
    .bind (Q := Deliver label) (.ask fun _ => rfl) fun xs r hr =>
      hclosing.bind fun ys _ hys => .pure (by rw [List.append_nil]; exact hr.append hys)
  exact hrecords.bind fun xs r hr => .pure (by rw [List.append_nil]; exact hr.fetched)

theorem Postgres.succeeds_fetch : (fetch n sql).Succeeds Fetched :=
  .bind (Q := Deliver label) (.ask fun _ => rfl) fun xs r hr =>
    .bind (Q := Silent) (.ask fun _ => rfl) fun ys _ hys =>
      .pure (by rw [List.append_nil]; exact (hr.append hys).fetched)

theorem Mysql.succeeds_fetch : (fetch n sql).Succeeds Fetched := by
  have hrecords : (records n sql none).Succeeds (Deliver label) :=
    .atEnd (Q := Deliver label) (C := Silent) (.ask fun _ => rfl) (.ask fun _ => rfl)
      fun _ _ _ h h' => h.append h'
  refine hrecords.bind fun xs r hr => .pure ?_
  simp only [List.append_nil, List.zipWith_map_left]
  exact hr.fetched

namespace Relational

variable (c : Relational) (sql : String)

/-- **Whatever the engine, its rows are the records of its client, labelled.** -/
theorem succeeds_fetch : (c.fetch sql).Succeeds Fetched := by
  unfold fetch
  cases c.engine with
  | sqlite => exact Sqlite.succeeds_fetch
  | postgres => exact Postgres.succeeds_fetch
  | mysql => exact Mysql.succeeds_fetch

/-- A command tabulates these rows. -/
theorem meets_execute : (c.execute sql).Meets fun xs result => (∀ x ∈ xs, x.reply.isOk = true) →
    ∃ r, xs.filterMap Exchange.records? = [r] ∧
      result = (tabulate r.cells).mapError (Failure.fault ∘ Fault.ragged) := by
  refine meets_bind.mpr ((c.succeeds_fetch sql).mapFailure.mono fun xs result hresult => ?_)
  cases result with
  | error f => exact fun hall => nomatch hresult hall
  | ok rows =>
    refine meets_ofFault.mpr fun hall => ?_
    rw [List.append_nil] at hall ⊢
    obtain ⟨_, ⟨⟩, r, hr, rfl⟩ := hresult hall
    refine ⟨r, hr, ?_⟩
    cases tabulate r.cells <;> rfl

end Relational

/-! ## From records to tables -/

/-- Every value of records is at its place among native cells, and its label is the one of its
column. -/
structure HandedOver (r : RecordSet (Value → Column)) (rows : List (List NativeCell)) : Prop where
  count : rows.length = r.rows.length
  width : ∀ row ∈ rows, row.length = r.columns.length
  cells : ∀ i j v, cellAt? r.rows i j = some v →
    ∃ label, r.columns[j]? = some label ∧ cellAt? rows i j = some ⟨label v, v⟩

theorem RecordSet.IsEven.handedOver {r : RecordSet (Value → Column)} (h : r.IsEven) :
    HandedOver r r.cells := by
  constructor
  case count => exact List.length_map _
  case width =>
    simp only [RecordSet.cells, List.forall_mem_map, List.length_zipWith]
    intro row hrow
    rw [h row hrow, Nat.min_self]
  case cells =>
    intro i j v hv
    obtain ⟨row, hrow, hj⟩ := exists_of_cellAt? hv
    obtain ⟨hlt, -⟩ := List.getElem?_eq_some_iff.mp hj
    rw [h row hrow] at hlt
    have hlabel : r.columns[j]? = some r.columns[j] := List.getElem?_eq_getElem hlt
    refine ⟨r.columns[j], hlabel, ?_⟩
    rw [RecordSet.cells, cellAt?_zipWith, hv, hlabel]
    rfl

/-- What becomes of native rows. -/
structure TabulatesCellwise (rows : List (List NativeCell)) : Prop where
  /-- No rows give no columns. -/
  nothing : rows = [] → tabulate rows = .ok .empty
  /-- Rows of one width give a table, cell by cell. -/
  even : (∀ row ∈ rows, row.length = firstWidth rows) →
    ∃ t, tabulate rows = .ok t ∧ Tabulated rows t ∧ CellsApart rows t
  /-- Of other rows, the first one that is not as wide as the first row of all is told. -/
  ragged : (∃ row ∈ rows, row.length ≠ firstWidth rows) →
    ∃ r, tabulate rows = .error r ∧ FirstRagged (firstWidth rows) rows r

theorem tabulatesCellwise (rows : List (List NativeCell)) : TabulatesCellwise rows := by
  constructor
  case nothing =>
    rintro rfl
    rfl
  case even =>
    intro heven
    obtain ⟨t, ht, htabulated⟩ := exists_tabulated heven
    exact ⟨t, ht, htabulated, cellsApart_of_tabulate ht⟩
  case ragged => exact exists_firstRagged

/-- **Cells stay in their places**: native rows are tabulated cell by cell, and if no client raises
an error, native rows have the values of the one set of records that was handed over. -/
theorem Relational.cells_stay_in_place {σ : Type} (responder : Responder σ) (state : σ)
    (c : Relational) (sql : String) (rows : List (List NativeCell)) :
    let xs := (c.fetch sql).run.exchanges responder state
    TabulatesCellwise rows ∧ ((∀ x ∈ xs, x.reply.isOk = true) →
      ∃ r native, xs.filterMap Exchange.records? = [r] ∧
        ((c.fetch sql).run.run responder state).result = .ok native ∧
        (r.IsEven → HandedOver r native)) := by
  refine ⟨tabulatesCellwise rows, fun hall => ?_⟩
  have hfetch := Dialogue.Meets.run (c.succeeds_fetch sql) responder state
  obtain ⟨native, hnative, r, hr, rfl⟩ := hfetch hall
  exact ⟨r, _, hr, hnative, fun heven => heven.handedOver⟩

/-- A server that hands over two records, under a code that has no name besides one that has. -/
def codedServer : Responder Unit where
  reply state c :=
    match c with
    | ⟨_, .mysql (.execute ..)⟩ =>
      (.ok ⟨[("n", 3), ("x", 99)], [[.int 1, .text "a"], [.null, .text "b"]]⟩, state)
    | ⟨_, .mysql .closeCursor⟩ => (.ok (), state)
    | _ => (.error ⟨.system, "boom"⟩, state)

/-- Its records stay in their places; and of three ragged rows the second one is told. -/
theorem Relational.cells_stay_in_place_coded :
    let xs := (fetch ⟨0, .mysql .null⟩ "SELECT n, x FROM t").run.exchanges codedServer ()
    let cell : NativeCell := ⟨⟨"n", "INT"⟩, .int 1⟩
    let rows := [[cell], [], [cell, cell]]
    tabulate rows = .error ⟨1, 0, 1⟩ ∧ FirstRagged 1 rows ⟨1, 0, 1⟩ ∧
      (∀ x ∈ xs, x.reply.isOk = true) ∧ ∃ r native, xs.filterMap Exchange.records? = [r] ∧
        r.IsEven ∧ HandedOver r native ∧
        cellAt? native 1 1 = some ⟨⟨"x", "UNKNOWN"⟩, .text "b"⟩ := by
  intro xs cell rows
  let records : RecordSet (String × Int) :=
    ⟨[("n", 3), ("x", 99)], [[.int 1, .text "a"], [.null, .text "b"]]⟩
  have hxs : xs = [⟨⟨0, .mysql (.execute "SELECT n, x FROM t" none)⟩, .ok records⟩,
      ⟨⟨0, .mysql .closeCursor⟩, .ok ()⟩] := rfl
  have hclean : ∀ x ∈ xs, x.reply.isOk = true := by
    rw [hxs]
    simp [Except.isOk, Except.toBool]
  obtain ⟨htabulates, hfetch⟩ := cells_stay_in_place codedServer () ⟨0, .mysql .null⟩
    "SELECT n, x FROM t" rows
  obtain ⟨r, hr, hragged⟩ := htabulates.ragged ⟨[], by simp [rows], by decide⟩
  have herror : tabulate rows = .error ⟨1, 0, 1⟩ := rfl
  obtain rfl : ⟨1, 0, 1⟩ = r := Except.error.inj (herror.symm.trans hr)
  obtain ⟨records', native, hrecords, -, hnative⟩ := hfetch hclean
  obtain rfl : records.labelled Mysql.label = records' := List.singleton_inj.mp hrecords
  have heven : (records.labelled Mysql.label).IsEven :=
    RecordSet.IsEven.labelled (by simp [RecordSet.IsEven, records])
  obtain ⟨label, hlabel, hcell⟩ := (hnative heven).cells 1 1 (.text "b") rfl
  obtain rfl : Mysql.label ("x", 99) = label := Option.some.inj hlabel
  exact ⟨hr, hragged, hclean, _, native, hrecords, heven, hnative heven, hcell⟩

end Polystore
