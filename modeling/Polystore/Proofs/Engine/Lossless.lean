import Polystore.Proofs.Engine.Records

/-!
# Cells of an embedded engine

The cells of an embedded engine have no declared types. Each is labelled by the storage class of its
own value, and the label is one under which the normal form keeps the value. So a column may mix
kinds of values, and nothing is lost but the kind of bytes.

* `Value.IsStored`, `Value.shown`: what the engine stores, and how it is shown;
* **`Value.normalize_storageClass`**: the normal form under the storage class;
* `Sqlite.rows_of_tabulated`, `Sqlite.columns_of_tabulated`: what is tabulated of records;
* **`Relational.cells_lossless`**: a command shows the records that the engine hands over.
-/

namespace Polystore

namespace Value

/-! ## Storage classes -/

/-- What an embedded engine stores in a cell. -/
inductive IsStored : Value → Prop
  | null : IsStored .null
  | int (n : Int) (h : isInt64 n = true) : IsStored (.int n)
  | float (x : Number.Binary64) (h : x.isFinite = true) : IsStored (.float x)
  | text (s : String) : IsStored (.text s)
  | bytes (kind : ByteKind) (b : Text.Bytes) : IsStored (.bytes kind b)

/-- A value as it is shown: bytes as a text, and any other value as it is. -/
def shown : Value → Value
  | .bytes _ b => .text (bytesText b)
  | v => v

/-- Storage classes are in canonical form. -/
theorem canonicalLabel_storageClass (v : Value) :
    canonicalLabel (some v.storageClass) = v.storageClass := by
  have hclasses : ∀ label ∈ ["NULL", "INTEGER", "REAL", "TEXT", "BLOB"],
      canonicalLabel (some label) = label := by decide +kernel
  refine hclasses _ ?_
  cases v <;> simp [storageClass]

/-- **The storage class of a value keeps the value.** -/
theorem normalize_storageClass {v : Value} (h : v.IsStored) :
    normalize v (some v.storageClass) = v.shown := by
  rw [normalize, canonicalLabel_storageClass]
  cases h with
  | null => rfl
  | int n h =>
    have hfamily : TypeFamily.ofLabel "INTEGER" = .integer := by decide
    simp [normalizeAs, storageClass, hfamily, keep?, asInt?, h, shown]
  | float x h =>
    have hfamily : TypeFamily.ofLabel "REAL" = .float := by decide
    simp [normalizeAs, storageClass, hfamily, keep?, toFiniteFloat?, h, shown]
  | text s =>
    have hfamily : TypeFamily.ofLabel "TEXT" = .text := by decide
    simp [normalizeAs, storageClass, hfamily, keep?, asText?, shown]
  | bytes kind b =>
    have hfamily : TypeFamily.ofLabel "BLOB" = .other := by decide
    simp [normalizeAs, storageClass, hfamily, keep?, describe, shown]

end Value

/-! ## Records -/

namespace Sqlite

variable {names : List String} {records : List (List Value)} {t : Table}
  (heven : ∀ record ∈ records, record.length = names.length)
  (ht : Tabulated (RecordSet.labelled label ⟨names, records⟩).cells t)

include heven ht

theorem rows_of_tabulated (hstored : ∀ record ∈ records, ∀ v ∈ record, v.IsStored) :
    t.rows = records.map (·.map Value.shown) := by
  refine eq_of_cellAt? ?_ fun i j => ?_
  · have hcount : t.rows.length = _ := ht.count
    rw [hcount, RecordSet.cells, List.length_map, List.length_map]
    rfl
  · rw [ht.cells, cellAt?_map, RecordSet.cells_labelled, cellAt?_zipWith]
    cases hv : cellAt? records i j with
    | none => rfl
    | some v =>
      obtain ⟨record, hrecord, hj⟩ := exists_of_cellAt? hv
      have hlt : j < names.length := by
        rw [← heven record hrecord]
        exact (List.getElem?_eq_some_iff.mp hj).1
      have hshown := Value.normalize_storageClass
        (hstored record hrecord v (List.mem_of_getElem? hj))
      simp only [Option.bind_some, List.getElem?_eq_getElem hlt, Option.map_some]
      exact congrArg some hshown

/-- The columns are labelled by the first record. -/
theorem columns_of_tabulated :
    t.types = (records.headD []).map Value.storageClass ∧
      t.names = if records.isEmpty then [] else names := by
  rw [Table.types, Table.names, ht.columns, RecordSet.cells_labelled]
  cases records with
  | nil => exact ⟨rfl, rfl⟩
  | cons first rest =>
    have hfirst := heven first List.mem_cons_self
    have hcolumns : (List.zipWith (fun name v => (⟨label name v, v⟩ : NativeCell)) names first).map
        NativeCell.column = (names.zip first).map fun p => label p.1 p.2 := by
      rw [List.zip, List.map_zipWith, List.map_zipWith]
    have hnames : (names.zip first).map Prod.fst = names :=
      List.map_fst_zip (Nat.le_of_eq hfirst.symm)
    have hvalues : (names.zip first).map Prod.snd = first :=
      List.map_snd_zip (Nat.le_of_eq hfirst)
    rw [List.map_cons, List.headD_cons, hcolumns, List.map_map, List.map_map, List.headD_cons,
      List.isEmpty_cons]
    constructor
    · nth_rewrite 2 [← hvalues]
      rw [List.map_map]
      rfl
    · exact hnames

end Sqlite

/-- The records of a command are those that the engine replies with at first. -/
theorem Relational.records_of_reply {σ : Type} {responder : Responder σ} {state : σ} {client : Nat}
    {sql : String} {given : RecordSet String} {r : RecordSet (Value → Column)}
    (hreply : (responder.reply state ⟨client, .sqlite (.execute sql)⟩).1 = .ok given)
    (hr : ((execute ⟨client, .sqlite⟩ sql).run.exchanges responder state).filterMap
      Exchange.records? = [r]) : given.labelled Sqlite.label = r := by
  have hfirst : ∃ rest, (execute ⟨client, .sqlite⟩ sql).run.exchanges responder state =
      ⟨⟨client, .sqlite (.execute sql)⟩, .ok given⟩ :: rest := by
    rw [← hreply]
    exact ⟨_, rfl⟩
  obtain ⟨rest, hrest⟩ := hfirst
  rw [hrest] at hr
  exact (List.cons.inj hr).1

/-- **Nothing is lost in the cells of an embedded engine.** The storage class of a value keeps it,
so a command shows the records that the engine hands over, under the storage classes of the first
one. -/
theorem Relational.cells_lossless :
    (∀ v : Value, v.IsStored → normalize v (some v.storageClass) = v.shown) ∧
    ∀ {σ : Type} (responder : Responder σ) (state : σ) (client : Nat) (sql : String)
      (names : List String) (records : List (List Value)),
      (responder.reply state ⟨client, .sqlite (.execute sql)⟩).1 = .ok ⟨names, records⟩ →
      (∀ x ∈ (execute ⟨client, .sqlite⟩ sql).run.exchanges responder state,
        x.reply.isOk = true) →
      (∀ record ∈ records, record.length = names.length) →
      (∀ record ∈ records, ∀ v ∈ record, v.IsStored) →
      ∃ t, ((execute ⟨client, .sqlite⟩ sql).run.run responder state).result = .ok t ∧
        t.rows = records.map (·.map Value.shown) ∧
        t.types = (records.headD []).map Value.storageClass ∧
        t.names = if records.isEmpty then [] else names := by
  refine ⟨fun v => Value.normalize_storageClass, ?_⟩
  intro σ responder state client sql names records hreply hclean heven hstored
  have hmeets := Dialogue.Meets.run (meets_execute ⟨client, .sqlite⟩ sql) responder state
  obtain ⟨r, hr, hresult⟩ := hmeets hclean
  obtain rfl := records_of_reply hreply hr
  have hcells : (RecordSet.labelled Sqlite.label ⟨names, records⟩).IsEven :=
    RecordSet.IsEven.labelled heven
  obtain ⟨t, ht, htabulated⟩ := exists_tabulated (even_of_width hcells.handedOver.width)
  rw [ht] at hresult
  exact ⟨t, hresult, Sqlite.rows_of_tabulated heven htabulated hstored,
    Sqlite.columns_of_tabulated heven htabulated⟩

/-- Records whose first column has a value of every kind. -/
def mixedRecords : List (List Value) :=
  [[.float (.finite true 0 0), .text "-0.0"], [.int (-9223372036854775808), .null],
    [.text "1", .int 1], [.bytes .fixed [0xc3, 0xa9], .text ""], [.null, .bytes .fixed [0xff]]]

/-- An embedded engine that hands them over. -/
def mixedEngine : Responder Unit where
  reply state c :=
    match c with
    | ⟨_, .sqlite (.execute _)⟩ => (.ok ⟨["v", "w"], mixedRecords⟩, state)
    | ⟨_, .sqlite .fetchAll⟩ => (.ok (), state)
    | ⟨_, .sqlite .closeCursor⟩ => (.ok (), state)
    | _ => (.error ⟨.system, "boom"⟩, state)

/-- The numbers and texts of such columns are told apart as before. -/
theorem Relational.cells_lossless_mixed :
    ∃ t, ((execute ⟨0, .sqlite⟩ "SELECT v, w FROM t").run.run mixedEngine ()).result = .ok t ∧
      t.rows = [[.float (.finite true 0 0), .text "-0.0"], [.int (-9223372036854775808), .null],
        [.text "1", .int 1], [.text "é", .text ""], [.null, .text "ff"]] ∧
      t.types = ["REAL", "TEXT"] ∧ t.names = ["v", "w"] := by
  let ask (r : SqliteRequest) (answer : r.Answer) : Exchange := ⟨⟨0, .sqlite r⟩, .ok answer⟩
  have hexchanges : (execute ⟨0, .sqlite⟩ "SELECT v, w FROM t").run.exchanges mixedEngine () =
      [ask (.execute "SELECT v, w FROM t") ⟨["v", "w"], mixedRecords⟩, ask .fetchAll (),
        ask .closeCursor ()] := rfl
  have hclean : ∀ x ∈ (execute ⟨0, .sqlite⟩ "SELECT v, w FROM t").run.exchanges mixedEngine (),
      x.reply.isOk = true := by
    rw [hexchanges]
    simp [ask, Except.isOk, Except.toBool]
  have hstored : ∀ record ∈ mixedRecords, ∀ v ∈ record, v.IsStored := by
    have hint : isInt64 (-9223372036854775808) = true ∧ isInt64 1 = true := ⟨rfl, rfl⟩
    simp [mixedRecords, Value.IsStored.null, Value.IsStored.text, Value.IsStored.bytes,
      Value.IsStored.int _ hint.1, Value.IsStored.int _ hint.2,
      Value.IsStored.float (.finite true 0 0) rfl]
  obtain ⟨t, ht, hrows, htypes, hnames⟩ := cells_lossless.2 mixedEngine () 0 "SELECT v, w FROM t"
    ["v", "w"] mixedRecords rfl hclean (by decide) hstored
  refine ⟨t, ht, hrows.trans ?_, htypes, hnames⟩
  have hutf8 : Value.bytesText [0xc3, 0xa9] = "é" := by decide +kernel
  have hhex : Value.bytesText [0xff] = "ff" := by decide +kernel
  simp [mixedRecords, Value.shown, hutf8, hhex]

end Polystore
