import Mathlib.Data.List.Induction
import Mathlib.Data.List.Nodup
import Polystore.Engine.Mongo
import Polystore.Proofs.Native.Ensures
import Polystore.Proofs.Table.Maps
import Polystore.Proofs.Value.Normal

/-!
# Tables of documents

Documents come in one by one, and columns and rows grow together. The table is the one that two
passes over all documents give: the first pass finds the columns, and the second one looks every
column up in every document.

* `columnsOf`: the first pass, to which `documentRow` is the second one;
* `addColumns_idColumn`: columns that grow are the columns of the first pass;
* `Accretion.Fits`: rows that grow, filled up with null, are the rows of the second pass;
* `tabulateDocuments_eq`: both give one table;
* **`Mongo.find_tabulates`**: what a search gives for the documents of a client.
-/

namespace Polystore

/-! ## Two passes -/

/-- The column of a name among fields, labelled by the first value that the name has. -/
def columnIn (fields : List (String × Value)) (name : String) : Column :=
  ⟨name, ((OrderedMap.get? fields name).getD .null).documentLabel⟩

/-- The columns of fields: the one of the identifiers, and one for every other name, in the order of
first occurrence. -/
def columnsOf (fields : List (String × Value)) : List Column :=
  idColumn :: ((fields.map Prod.fst).eraseDups.filter (· ≠ idColumn.name)).map (columnIn fields)

variable {fields : List (String × Value)} {columns more : List Column} {document : Document}
  {documents : List Document}

theorem names_columnsOf : (columnsOf fields).map Column.name =
    idColumn.name :: (fields.map Prod.fst).eraseDups.filter (· ≠ idColumn.name) := by
  simp [columnsOf, columnIn, Function.comp_def]

theorem mem_names_columnsOf {name : String} : name ∈ (columnsOf fields).map Column.name ↔
    name = idColumn.name ∨ name ∈ fields.map Prod.fst := by
  rw [names_columnsOf, List.mem_cons, List.mem_filter, List.mem_eraseDups]
  by_cases h : name = idColumn.name <;> simp [h]

theorem nodup_names_columnsOf : ((columnsOf fields).map Column.name).Nodup := by
  rw [names_columnsOf, List.nodup_cons]
  exact ⟨by simp, (nodup_eraseDups _).filter _⟩

/-- The column of a name that occurred is not changed by more fields. -/
theorem columnIn_append {name : String} (h : name ∈ fields.map Prod.fst)
    (l : List (String × Value)) :
    columnIn (fields ++ l) name = columnIn fields name := by
  obtain ⟨v, hv⟩ := Option.ne_none_iff_exists'.mp fun hnone =>
    (OrderedMap.get?_eq_none_iff fields name).mp hnone h
  simp [columnIn, OrderedMap.get?_append, hv]

theorem map_columnIn_append (l : List (String × Value)) :
    (((fields.map Prod.fst).eraseDups.filter (· ≠ idColumn.name)).map (columnIn (fields ++ l))) =
      ((fields.map Prod.fst).eraseDups.filter (· ≠ idColumn.name)).map (columnIn fields) := by
  refine List.map_congr_left fun name hm => columnIn_append ?_ l
  exact List.mem_eraseDups.mp (List.mem_filter.mp hm).1

/-- One more field has a new column only if its name is new. -/
theorem columnsOf_concat (entry : String × Value) : columnsOf (fields ++ [entry]) =
    if entry.1 ∈ (columnsOf fields).map Column.name then columnsOf fields
    else columnsOf fields ++ [⟨entry.1, entry.2.documentLabel⟩] := by
  rw [columnsOf, List.map_append, List.map_singleton, eraseDups_concat]
  by_cases hold : entry.1 ∈ fields.map Prod.fst
  · rw [if_pos hold, if_pos (mem_names_columnsOf.mpr (.inr hold)), map_columnIn_append]
    rfl
  · rw [if_neg hold, List.filter_append, List.map_append, map_columnIn_append]
    by_cases hid : entry.1 = idColumn.name
    · rw [if_pos (mem_names_columnsOf.mpr (.inl hid))]
      simp [columnsOf, hid]
    · have hnone := (OrderedMap.get?_eq_none_iff fields entry.1).mpr hold
      rw [if_neg fun h => (mem_names_columnsOf.mp h).elim hid hold]
      simp [columnsOf, columnIn, hid, OrderedMap.get?_append, OrderedMap.get?_cons, hnone]

/-! ## Columns that grow -/

theorem addColumns_concat (entry : String × Value) : addColumns columns (document ++ [entry]) =
    if entry.1 ∈ (addColumns columns document).map Column.name then addColumns columns document
    else addColumns columns document ++ [⟨entry.1, entry.2.documentLabel⟩] := by
  simp [addColumns]

theorem addColumns_append (l : List (String × Value)) :
    addColumns columns (document ++ l) = addColumns (addColumns columns document) l := by
  simp [addColumns]

/-- **Columns that grow are the columns of the first pass.** -/
theorem addColumns_idColumn (fields : List (String × Value)) :
    addColumns [idColumn] fields = columnsOf fields := by
  induction fields using List.reverseRecOn with
  | nil => rfl
  | append_singleton fields entry ih => rw [addColumns_concat, columnsOf_concat, ih]

/-- What is added to columns has new names. -/
theorem exists_addColumns (columns : List Column) (document : Document) :
    ∃ more, addColumns columns document = columns ++ more ∧
      ∀ column ∈ more, column.name ∉ columns.map Column.name := by
  induction document using List.reverseRecOn with
  | nil => exact ⟨[], by simp [addColumns]⟩
  | append_singleton document entry ih =>
    obtain ⟨more, heq, hmore⟩ := ih
    rw [addColumns_concat, heq]
    split
    · exact ⟨more, rfl, hmore⟩
    · rename_i hnew
      refine ⟨more ++ [⟨entry.1, entry.2.documentLabel⟩], by simp, fun column hm => ?_⟩
      rcases List.mem_append.mp hm with hm | hm
      · exact hmore column hm
      · obtain rfl := List.mem_singleton.mp hm
        exact fun hold => hnew (by rw [List.map_append]; exact List.mem_append_left _ hold)

/-- The fields of a document that is added have columns. -/
theorem mem_names_addColumns {entry : String × Value} (h : entry ∈ document) :
    entry.1 ∈ (addColumns columns document).map Column.name := by
  induction document using List.reverseRecOn with
  | nil => simp at h
  | append_singleton document last ih =>
    rw [addColumns_concat]
    rcases List.mem_append.mp h with h | h
    · split
      · exact ih h
      · rw [List.map_append]
        exact List.mem_append_left _ (ih h)
    · obtain rfl := List.mem_singleton.mp h
      split
      · assumption
      · simp

/-! ## Rows that grow -/

/-- New columns are null in a document that has none of them. -/
theorem documentRow_append (h : ∀ column ∈ more, column.name ∉ OrderedMap.keys document) :
    documentRow (columns ++ more) document =
      documentRow columns document ++ List.replicate more.length .null := by
  have hnull : documentRow more document = List.replicate more.length .null := by
    refine List.eq_replicate_iff.mpr ⟨by simp [documentRow], fun v hv => ?_⟩
    obtain ⟨column, hm, rfl⟩ := List.mem_map.mp hv
    rw [(OrderedMap.get?_eq_none_iff _ _).mpr (h column hm), Option.getD_none]
  rw [← hnull]
  simp [documentRow]

/-- A row with null in the columns that it is too short for. -/
def filledUp (columns : List Column) (row : List Value) : List Value :=
  row ++ List.replicate (columns.length - row.length) .null

theorem filledUp_append {row : List Value} (h : row.length ≤ columns.length) :
    filledUp (columns ++ more) row =
      filledUp columns row ++ List.replicate more.length .null := by
  have : (columns ++ more).length - row.length = columns.length - row.length + more.length := by
    rw [List.length_append]
    omega
  rw [filledUp, this, List.replicate_add, filledUp, List.append_assoc]

namespace Accretion

variable {a : Accretion}

/-- Columns and rows fit documents: no row is too long, every field has a column, and the rows are
those of the second pass as soon as they are filled up. -/
structure Fits (a : Accretion) (documents : List Document) : Prop where
  short : ∀ row ∈ a.rows, row.length ≤ a.columns.length
  named : ∀ document ∈ documents, ∀ entry ∈ document, entry.1 ∈ a.columns.map Column.name
  rows : a.rows.map (filledUp a.columns) = documents.map (documentRow a.columns)

theorem fits_start : start.Fits [] := by
  constructor <;> simp [start]

/-- **One more document fits as well.** -/
theorem Fits.add (h : a.Fits documents) (document : Document) :
    (a.add document).Fits (documents ++ [document]) := by
  obtain ⟨more, heq, hmore⟩ := exists_addColumns a.columns document
  constructor
  case short =>
    intro row hm
    simp only [Accretion.add, heq, List.mem_append, List.mem_singleton] at hm ⊢
    rcases hm with hm | rfl
    · exact Nat.le_trans (h.short row hm) (by simp)
    · simp [documentRow]
  case named =>
    intro d hd entry he
    rcases List.mem_append.mp hd with hd | hd
    · simp only [Accretion.add, heq, List.map_append]
      exact List.mem_append_left _ (h.named d hd entry he)
    · obtain rfl := List.mem_singleton.mp hd
      exact mem_names_addColumns he
  case rows =>
    -- the earlier rows get null in the new columns, which the earlier documents do not have
    have hold : a.rows.map (filledUp (a.columns ++ more)) =
        documents.map (documentRow (a.columns ++ more)) := by
      calc a.rows.map (filledUp (a.columns ++ more))
          = (a.rows.map (filledUp a.columns)).map (· ++ List.replicate more.length .null) := by
            rw [List.map_map]
            exact List.map_congr_left fun row hm => filledUp_append (h.short row hm)
        _ = (documents.map (documentRow a.columns)).map
            (· ++ List.replicate more.length .null) := by
            rw [h.rows]
        _ = documents.map (documentRow (a.columns ++ more)) := by
            rw [List.map_map]
            refine List.map_congr_left fun d hd => (documentRow_append fun column hc hk => ?_).symm
            obtain ⟨entry, he, hn⟩ := List.mem_map.mp hk
            exact hmore column hc (hn ▸ h.named d hd entry he)
    have hfull : filledUp (a.columns ++ more) (documentRow (a.columns ++ more) document) =
        documentRow (a.columns ++ more) document := by simp [filledUp, documentRow]
    simp [Accretion.add, heq, hold, hfull]

theorem fits_foldl (documents : List Document) : (documents.foldl add start).Fits documents := by
  induction documents using List.reverseRecOn with
  | nil => exact fits_start
  | append_singleton documents document ih =>
    rw [List.foldl_concat]
    exact ih.add document

theorem columns_foldl (documents : List Document) :
    (documents.foldl add start).columns = columnsOf documents.flatten := by
  rw [← addColumns_idColumn]
  induction documents using List.reverseRecOn with
  | nil => rfl
  | append_singleton documents document ih =>
    simp [Accretion.add, ih, addColumns_append]

end Accretion

/-! ## Tables -/

theorem Table.build_of_width (columns : List Column) (rows : List (List Value))
    (h : ∀ row ∈ rows, row.length = columns.length) :
    Table.build columns rows = .ok ⟨columns, rows, h⟩ := by
  have hnone := (Table.firstRagged?_eq_none_iff (i := 0)).mpr h
  unfold Table.build
  split
  · rfl
  · rename_i ragged hsome
    rw [hnone] at hsome
    cases hsome

/-- The table of two passes. -/
def tableOf (documents : List Document) : Table where
  columns := columnsOf documents.flatten
  rows := documents.map (documentRow (columnsOf documents.flatten))
  width := by simp [documentRow]

/-- **One pass gives the table of two passes**, and no row is ragged. -/
theorem tabulateDocuments_eq (documents : List Document) :
    tabulateDocuments documents = .ok (tableOf documents) := by
  have hfits := Accretion.fits_foldl documents
  have hcolumns := Accretion.columns_foldl documents
  have hrows := hfits.rows
  rw [hcolumns] at hrows
  unfold tabulateDocuments Accretion.finish
  rw [hcolumns]
  change Table.build _ ((documents.foldl Accretion.add .start).rows.map (filledUp _)) = _
  simp only [hrows]
  exact Table.build_of_width _ _ _

/-! ## Searches -/

theorem mapM_documentFields {documents : List Document}
    (h : ∀ d ∈ documents, (OrderedMap.keys d).Nodup) :
    (documents.map Value.ofFields).mapM Mongo.documentFields =
      .ok (documents.map normalFields) := by
  induction documents with
  | nil => rfl
  | cons d rest ih =>
    obtain ⟨hd, hrest⟩ := List.forall_mem_cons.mp h
    have hfields : Mongo.documentFields (.ofFields d) = .ok (normalFields d) :=
      congrArg Except.ok (normalizeDocument_text hd)
    rw [List.map_cons, List.mapM_cons, hfields, ih hrest]
    rfl

theorem get?_normalFields (fields : List (String × Value)) (name : String) :
    OrderedMap.get? (normalFields fields) name =
      (OrderedMap.get? fields name).map normalizeDocumentValue := by
  induction fields with
  | nil => rfl
  | cons entry rest ih =>
    simp only [normalFields, List.map_cons, OrderedMap.get?_cons] at ih ⊢
    split
    · rfl
    · exact ih

/-- **A search gives the table of two passes.** Its columns are those of the fields of all documents
in normal form; each document has a row, with the normal form of what it has in each column, or
null. Every field of every document has exactly one column. -/
theorem Mongo.find_tabulates {σ : Type} (responder : Responder σ) (state : σ) (c : Mongo)
    (collection : String) (filter : ExtendedJson.Fields) (documents : List Document)
    (hkeys : ∀ d ∈ documents, (OrderedMap.keys d).Nodup)
    (hreply : (responder.reply state ⟨c.client, .mongo (.find collection filter)⟩).1 =
      .ok ⟨documents.map Value.ofFields, none⟩) :
    ∃ t : Table, (Dialogue.run responder state (c.find collection filter).run).result = .ok t ∧
      t.columns = columnsOf (documents.map normalFields).flatten ∧
      t.rows = documents.map (fun d => t.columns.map fun column =>
        ((OrderedMap.get? d column.name).map normalizeDocumentValue).getD .null) ∧
      t.names.Nodup ∧ ∀ d ∈ documents, ∀ entry ∈ d, entry.1 ∈ t.names := by
  have hdrain : drain ⟨documents.map Value.ofFields, none⟩ = .ok (documents.map normalFields) := by
    simp only [drain, mapM_documentFields hkeys]
    rfl
  refine ⟨tableOf (documents.map normalFields), ?_, rfl, ?_, nodup_names_columnsOf,
    fun d hd entry he => ?_⟩
  · refine (Session.result_ask_bind hreply).trans ?_
    simp only [hdrain, tabulateDocuments_eq]
    rfl
  · simp only [tableOf, List.map_map]
    refine List.map_congr_left fun d _ => ?_
    simp only [Function.comp_apply, documentRow, get?_normalFields]
  · refine mem_names_columnsOf.mpr (.inr ?_)
    rw [List.map_flatten, List.mem_flatten]
    refine ⟨(normalFields d).map Prod.fst, List.mem_map_of_mem (List.mem_map_of_mem hd), ?_⟩
    have hmem : entry.1 ∈ OrderedMap.keys (normalFields d) := by
      rw [keys_normalFields]
      exact List.mem_map_of_mem he
    exact hmem

/-- A client whose searches find the same documents always, and which answers nothing else. -/
def Responder.finding (documents : List Document) : Responder Unit where
  reply state c :=
    match c with
    | ⟨_, .mongo (.find ..)⟩ => (.ok ⟨documents.map Value.ofFields, none⟩, state)
    | _ => (.error ⟨.system, "no answer"⟩, state)

/-- The first document has no identifier, and the second one has new names. -/
theorem Mongo.find_tabulates_pair :
    let documents := [[("b", .bool true)], [("a", .text "x"), ("_id", .text "i")]]
    ∃ t : Table, (Dialogue.run (Responder.finding documents) () (find ⟨0, "shop"⟩ "c" []).run).result
        = .ok t ∧
      t.columns = [⟨"_id", "ObjectId"⟩, ⟨"b", "Boolean"⟩, ⟨"a", "String"⟩] ∧
      t.rows = [[.null, .bool true, .null], [.text "i", .null, .text "x"]] := by
  intro documents
  obtain ⟨t, ht, hcolumns, hrows, -⟩ := find_tabulates (Responder.finding documents) ()
    ⟨0, "shop"⟩ "c" [] documents (by decide) rfl
  have hnames : t.columns = [⟨"_id", "ObjectId"⟩, ⟨"b", "Boolean"⟩, ⟨"a", "String"⟩] := by
    rw [hcolumns]
    decide
  refine ⟨t, ht, hnames, ?_⟩
  rw [hrows, hnames]
  rfl

end Polystore
