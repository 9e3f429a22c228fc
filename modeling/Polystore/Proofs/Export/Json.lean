import Polystore.Export
import Polystore.Proofs.Engine.Tables
import Polystore.Proofs.Json.Complete

/-!
# Tables in JSON

A table of writable cells is exported to JSON, and a strict reader finds one object for each row. An
object has the names of the columns, each once and at its first place, with the last cell under the
name; so cells are lost just if a name is repeated.

* `Table.tree`: what the text says;
* `Table.IsRecord`: the object of a row;
* `Table.Recounts`: what a text promises about a table;
* `Table.recounts_exported`: the export of a writable table;
* **`Connection.tables_read_back`**: the tables of all engines;
* `Mongo.huge_count_not_exported`: a number that is not written.
-/

namespace Polystore

open Number Json

namespace Table

/-- What the text of a table says: a list with an object for each record. -/
def tree (t : Table) : Tree :=
  .list (t.records.map fun record => .object (record.map fun entry => (entry.1, entry.2.tree)))

/-- The record of a row: the pairs of name and cell are inserted from left to right. -/
structure IsRecord (t : Table) (row : List Value) (record : OrderedMap String Value) : Prop where
  made : record = OrderedMap.ofList (t.names.zip row)
  /-- Each name is there once, at its first place. -/
  names : OrderedMap.keys record = t.names.eraseDups
  /-- A name has the last of its cells. -/
  last : ∀ name, OrderedMap.get? record name = OrderedMap.get? (t.names.zip row).reverse name
  /-- Nothing is lost just if no name is repeated. -/
  size : record.length = t.columns.length ↔ t.names.Nodup

/-- What the text of a table promises. -/
structure Recounts (t : Table) (out : String) : Prop where
  /-- The text is JSON, by the grammar. -/
  spells : Spells t.tree out.toList
  /-- A strict reader finds what the text says. -/
  read : Json.read strict out.toList = .ok t.tree
  /-- There is one record for each row, in the order of rows. -/
  records : List.Forall₂ t.IsRecord t.rows t.records
  /-- No cell is of a kind that JSON has not. -/
  cells : t.IsWritable

variable {t : Table}

theorem isRecord_ofList {row : List Value} (h : row ∈ t.rows) :
    t.IsRecord row (OrderedMap.ofList (t.names.zip row)) := by
  have hlength : t.names.length = row.length := by rw [names, List.length_map, t.width row h]
  have hkeys : OrderedMap.keys (t.names.zip row) = t.names :=
    List.map_fst_zip (Nat.le_of_eq hlength)
  have hzip : (t.names.zip row).length = t.columns.length := by
    rw [List.length_zip, ← hlength, Nat.min_self, names, List.length_map]
  refine ⟨rfl, ?_, OrderedMap.get?_ofList _, ?_⟩
  · rw [OrderedMap.keys_ofList, hkeys]
  · rw [← hzip, OrderedMap.length_ofList_eq_iff, hkeys]

theorem isWritable_records (h : t.IsWritable) :
    (Value.list (t.records.map Value.ofFields)).IsWritable := by
  refine .list _ fun v hv => ?_
  simp only [records, List.map_map, List.mem_map, Function.comp_apply] at hv
  obtain ⟨row, hrow, rfl⟩ := hv
  refine .map _ (OrderedMap.nodup_keys_ofList _) fun entry he => ?_
  exact h row hrow _ (List.of_mem_zip (OrderedMap.mem_of_mem_ofList he)).2

theorem exported_json (options : ExportOptions) :
    t.exported "json" options = (t.toJson.map String.ofList).mapError .fault := by
  have hformat : ExportFormat.ofName? "json" = some .json := by decide
  rw [exported, hformat]
  rfl

/-- The export of a writable table succeeds, and its text tells the table. -/
theorem recounts_exported (h : t.IsWritable) (options : ExportOptions) :
    ∃ out, t.exported "json" options = .ok out ∧ t.Recounts out := by
  obtain ⟨cs, hcs, hspells⟩ := (isWritable_records h).isSpelled exportLayout 0
  have htree : (Value.list (t.records.map Value.ofFields)).tree = t.tree := by
    simp [tree, Function.comp_def]
  rw [htree] at hspells
  refine ⟨String.ofList cs, ?_, ?_, ?_, ?_, h⟩
  · rw [exported_json, toJson, Value.toJson, hcs]
    rfl
  · rwa [String.toList_ofList]
  · rw [String.toList_ofList]
    simpa using read_of_spells hspells isGap_nil isGap_nil
  · rw [records, List.forall₂_map_right_iff, List.forall₂_same]
    exact fun row hrow => isRecord_ofList hrow

end Table

/-- **Every table of an engine is exported to JSON and read back.** -/
theorem Connection.tables_read_back {σ : Type} (responder : Responder σ) (state : σ)
    {c : Connection} {s : Session Table} {t : Table} (hs : c.Tabulates s)
    (hdecoded : ∀ x ∈ Dialogue.exchanges responder state s.run, x.IsDecoded)
    (ht : (Dialogue.run responder state s.run).result = .ok t) (options : ExportOptions) :
    ∃ out, t.exported "json" options = .ok out ∧ t.Recounts out :=
  Table.recounts_exported (hs.yields_isWritable.run responder state hdecoded t ht) options

/-- A client that counts the same number of documents always, and answers nothing else. -/
def Responder.counting (n : Int) : Responder Unit where
  reply state c :=
    match c with
    | ⟨_, .mongo (.collection _)⟩ => (.ok (), state)
    | ⟨_, .mongo (.countDocuments _)⟩ => (.ok (.int n), state)
    | _ => (.error ⟨.system, "no answer"⟩, state)

theorem Responder.isDecoded_counting {n : Int} (hn : n.natAbs < tenPow maxDigits) (state : Unit)
    (c : Call) : Exchange.IsDecoded ⟨c, ((counting n).reply state c).1⟩ := by
  obtain ⟨client, r⟩ := c
  intro answer hanswer
  cases r with
  | sqlite | postgres | mysql => trivial
  | redis r => cases hanswer
  | mongo r =>
    cases r with
    | countDocuments collection =>
      cases hanswer
      rintro _ ⟨⟩
      exact hn
    | _ => trivial

theorem Mongo.result_counting (n : Int) :
    (Dialogue.run (Responder.counting n) () (execute ⟨0, "shop"⟩ "c.count()").run).result =
      .ok (.single countColumn (.int n)) := rfl

/-- The table of a count is written just if the number is. -/
theorem Mongo.toJson_count (n : Int) : (Table.single countColumn (.int n)).toJson =
    ((intText n).map fun cs => enclose Table.exportLayout 0 '[' ']'
      [enclose Table.exportLayout 1 '\x7b' '\x7d'
        [stringText false "count" ++ ':' :: ' ' :: cs]]).mapError .json := by
  have hrecords : (Table.single countColumn (.int n)).records.map Value.ofFields =
      [.map [(.text "count", .int n)]] := rfl
  rw [Table.toJson, hrecords]
  cases h : intText n with
  | ok cs =>
    simp only [Value.toJson, Value.jsonAt, Value.jsonItems, Value.jsonMembers, Json.keyText, h]
    rfl
  | error e =>
    simp only [Value.toJson, Value.jsonAt, Value.jsonItems, Value.jsonMembers, Json.keyText, h]
    rfl

/-- Two documents. -/
theorem Connection.tables_read_back_count :
    (∀ x ∈ Dialogue.exchanges (Responder.counting 2) () (Mongo.execute ⟨0, "shop"⟩ "c.count()").run,
      x.IsDecoded) ∧
    (Table.single Mongo.countColumn (.int 2)).Recounts
      "[\n  \x7b\n    \"count\": 2\n  \x7d\n]" := by
  have hsmall : (2 : Int).natAbs < tenPow maxDigits := Value.natAbs_lt_of_isInt64 (by decide)
  have hdecoded := Dialogue.forall_exchanges (Responder.isDecoded_counting hsmall)
    (Mongo.execute ⟨0, "shop"⟩ "c.count()").run ()
  obtain ⟨out, hout, hrecounts⟩ := tables_read_back (Responder.counting 2) ()
    (.execute (.document ⟨0, "shop"⟩) "c.count()") hdecoded (Mongo.result_counting 2) .default
  have htext : (Table.single Mongo.countColumn (.int 2)).exported "json" .default =
      .ok "[\n  \x7b\n    \"count\": 2\n  \x7d\n]" := by
    rw [Table.exported_json, Mongo.toJson_count, intText_of_lt hsmall]
    rfl
  rw [htext] at hout
  cases hout
  exact ⟨hdecoded, hrecounts⟩

/-- A number of documents with 4301 digits is in the table, but not written. -/
theorem Mongo.huge_count_not_exported : ∃ t : Table,
    (Dialogue.run (Responder.counting (tenPow maxDigits)) ()
      (execute ⟨0, "shop"⟩ "c.count()").run).result = .ok t ∧
    t.exported "json" .default = .error (.fault (.json .number)) := by
  refine ⟨_, result_counting _, ?_⟩
  have hnumber : intText (tenPow maxDigits) = .error .number :=
    intText_of_le (Nat.le_of_eq (Int.natAbs_natCast _).symm)
  rw [Table.exported_json, toJson_count, hnumber]
  rfl

end Polystore
