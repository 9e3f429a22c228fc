import Polystore.Proofs.Export.Csv

/-!
# How exports end

A line feed at the end of an export belongs to no cell. Comma-separated values end in one, and what
stands in front of it does not: a cell that ends in a line feed is put between quotes, and a record
is never blank unless it has no fields. The other formats do not end in a line feed.

* `Text.Unfed`: texts that do not end in a line feed, with `Text.Unfed.join`;
* `Csv.exists_line`, `Csv.exists_lines`: the end of a record, and of some records;
* `Table.unfed_toJson`, `Table.unfed_toInsertions`;
* **`Table.ends_exportAs`**: how exports end.
-/

namespace Polystore

open Text

/-! ## Ends of texts -/

namespace Text

/-- A text that does not end in a line feed. -/
def Unfed (cs : List Char) : Prop := cs.getLast? ≠ some '\n'

namespace Unfed

variable {c : Char} {cs : List Char}

theorem nil : Unfed [] := by simp [Unfed]

theorem snoc (cs : List Char) (hc : c ≠ '\n') : Unfed (cs ++ [c]) := by simpa [Unfed] using hc

theorem append (front : List Char) (hne : cs ≠ []) (h : Unfed cs) : Unfed (front ++ cs) := by
  rwa [Unfed, List.getLast?_append_of_ne_nil front hne]

theorem cons (hc : c ≠ '\n') (h : Unfed cs) : Unfed (c :: cs) := by
  cases cs with
  | nil => exact snoc [] hc
  | cons d cs => exact h.append [c] (by simp)

end Unfed

theorem join_ne_nil {separator : Char} {piece : List Char} {rest : List (List Char)}
    (h : piece ≠ []) : join separator (piece :: rest) ≠ [] := by
  cases rest <;> simp [join, h]

/-- Pieces that do not end in a line feed, put together, do not either. A line feed between them
does no harm if there is something behind it. -/
theorem Unfed.join {separator : Char} {parts : List (List Char)} (hparts : ∀ p ∈ parts, Unfed p)
    (hbetween : separator ≠ '\n' ∨ ∀ p ∈ parts, p ≠ []) : Unfed (join separator parts) := by
  induction parts with
  | nil => exact .nil
  | cons piece parts ih =>
    obtain ⟨hpiece, hrest⟩ := List.forall_mem_cons.mp hparts
    cases parts with
    | nil => exact hpiece
    | cons next parts =>
      refine Unfed.append piece (by simp) ?_
      rcases hbetween with hseparator | hne
      · exact (ih hrest (.inl hseparator)).cons hseparator
      · have hbehind := (List.forall_mem_cons.mp hne).2
        exact (ih hrest (.inr hbehind)).append [separator]
          (join_ne_nil (hbehind next List.mem_cons_self))

end Text

/-! ## Comma-separated values -/

namespace Csv

variable {delimiter : Char}

/-- A field with a line feed is between quotes. -/
theorem unfed_field (cs : List Char) : Unfed (field delimiter cs) := by
  unfold field
  split
  · exact Unfed.snoc ('"' :: _) (by decide)
  · next hplain =>
    intro hlast
    exact hplain (List.any_eq_true.mpr ⟨'\n', List.mem_of_getLast? hlast, by simp⟩)

/-- A record is a line, and the line is not blank if there are fields. -/
theorem exists_line (hfeed : delimiter ≠ '\n') (fields : List (List Char)) :
    ∃ line, record delimiter fields = line ++ ['\n'] ∧ Unfed line ∧ (fields ≠ [] → line ≠ []) := by
  have hne {line : List Char} (hline : record delimiter fields = line ++ ['\n'])
      (hfields : fields ≠ []) : line ≠ [] := by
    rintro rfl
    obtain ⟨c, rest, hrecord, hc⟩ := record_eq_cons hfeed hfields
    rw [hline] at hrecord
    exact hc (List.cons.inj hrecord).1.symm
  by_cases hempty : fields = [[]]
  · subst hempty
    exact ⟨inQuotes [], rfl, Unfed.snoc ['"'] (by decide), hne rfl⟩
  · have hline : record delimiter fields = _ := record_of_ne hempty
    refine ⟨_, hline, .join (List.forall_mem_map.mpr fun cs _ => unfed_field cs) (.inl hfeed), ?_⟩
    exact hne hline

/-- Records end in one line feed, unless the last one is blank and not the only one. -/
theorem exists_lines (hfeed : delimiter ≠ '\n') {records : List (List (List Char))}
    (hne : records ≠ []) (hblank : records.length ≤ 1 ∨ ∀ fields ∈ records, fields ≠ []) :
    ∃ front, records.flatMap (record delimiter) = front ++ ['\n'] ∧ Unfed front := by
  obtain ⟨before, last, rfl⟩ := (List.eq_nil_or_concat records).resolve_left hne
  obtain ⟨line, hline, hunfed, hfields⟩ := exists_line hfeed last
  refine ⟨before.flatMap (record delimiter) ++ line, ?_, ?_⟩
  · simp [hline]
  · rcases hblank with hone | hall
    · have hnone : before = [] := by simpa using hone
      simpa [hnone] using hunfed
    · exact hunfed.append _ (hfields (hall last (by simp)))

end Csv

/-! ## Other formats -/

theorem Json.unfed_enclose (layout : Layout) (depth : Nat) (opening : Char) {closing : Char}
    (hclosing : closing ≠ '\n') (parts : List (List Char)) :
    enclose layout depth opening closing parts ≠ [] ∧
      Unfed (enclose layout depth opening closing parts) := by
  unfold enclose
  split
  · exact ⟨by simp, Unfed.snoc [opening] hclosing⟩
  · exact ⟨by simp, Unfed.snoc _ hclosing⟩

theorem Sql.unfed_insertStatement (c : Convention) (table columns : List Name)
    (literals : List Literal) : insertStatement c table columns literals ≠ [] ∧
      Unfed (insertStatement c table columns literals) := by
  have hend (front : List Char) : front ++ [';'] ≠ [] ∧ Unfed (front ++ [';']) :=
    ⟨by simp, Unfed.snoc front (by decide)⟩
  exact hend _

/-! ## Tables -/

namespace Table

variable {t : Table} {cs : List Char}

/-- What is written of a table are records, as wide as the table, and one for each row. -/
theorem exists_records {headers : Bool} {delimiter : Char}
    (h : t.toCsv headers delimiter = .ok cs) :
    ∃ texts : List (List (List Char)), texts.length = t.rows.length ∧
      (∀ fields ∈ Csv.headerRecords headers t.names ++ texts, fields.length = t.columns.length) ∧
      cs = (Csv.headerRecords headers t.names ++ texts).flatMap (Csv.record delimiter) := by
  obtain ⟨texts, htexts, hcs⟩ := Except.bind_eq_ok_iff.mp h
  have hall := Except.mapM_eq_ok_iff.mp htexts
  refine ⟨texts, hall.length_eq.symm, List.forall_mem_append.mpr ⟨?_, ?_⟩, ?_⟩
  · cases headers <;> simp [Csv.headerRecords, names]
  · intro fields hfields
    obtain ⟨row, hrow, hcells⟩ := Except.exists_of_mapM_eq_ok htexts hfields
    rw [← (Except.mapM_eq_ok_iff.mp hcells).length_eq, t.width row hrow]
  · rw [← Except.ok.inj hcs]
    cases headers <;> rfl

theorem lines_of_toCsv {headers : Bool} {delimiter : Char} (hfeed : delimiter ≠ '\n')
    (hwide : t.columns ≠ [] ∨ t.rows = []) (h : t.toCsv headers delimiter = .ok cs) :
    cs = [] ∨ ∃ front, cs = front ++ ['\n'] ∧ Unfed front := by
  obtain ⟨texts, hlength, hwidth, rfl⟩ := exists_records h
  by_cases hne : Csv.headerRecords headers t.names ++ texts = []
  · exact .inl (by rw [hne, List.flatMap_nil])
  refine .inr (Csv.exists_lines hfeed hne ?_)
  rcases hwide with hcolumns | hrows
  · refine .inr fun fields hfields hnone => hcolumns (List.eq_nil_of_length_eq_zero ?_)
    rw [← hwidth fields hfields, hnone, List.length_nil]
  · refine .inl ?_
    have hnone : texts = [] :=
      List.eq_nil_of_length_eq_zero (by rw [hlength, hrows, List.length_nil])
    cases headers <;> simp [hnone, Csv.headerRecords]

theorem unfed_toJson (h : t.toJson = .ok cs) : cs ≠ [] ∧ Unfed cs := by
  obtain ⟨parts, -, hcs⟩ := Except.bind_eq_ok_iff.mp (Except.mapError_eq_ok_iff.mp h)
  rw [← Except.ok.inj hcs]
  exact Json.unfed_enclose _ _ _ (by decide) parts

theorem unfed_toInsertions {table : String} {dialect : Option String}
    (h : t.toInsertions table dialect = .ok cs) : Unfed cs := by
  unfold toInsertions at h
  split at h
  · cases h
    exact .nil
  · simp only [Except.bind_eq_ok_iff] at h
    obtain ⟨first, -, dialect, -, path, -, rest, -, hcs⟩ := h
    rw [← Except.ok.inj hcs]
    refine .join (List.forall_mem_map.mpr fun literals _ => ?_)
      (.inr (List.forall_mem_map.mpr fun literals _ => ?_))
    · exact (Sql.unfed_insertStatement _ _ _ literals).2
    · exact (Sql.unfed_insertStatement _ _ _ literals).1

end Table

/-- How a text in a format ends. -/
def ExportFormat.Ends : ExportFormat → List Char → Prop
  | .csv, cs => cs = [] ∨ ∃ front, cs = front ++ ['\n'] ∧ Unfed front
  | .json, cs => cs ≠ [] ∧ Unfed cs
  | .sql, cs => Unfed cs

/-- **Exports end as their format does**, whatever the last cell holds. -/
theorem Table.ends_exportAs {t : Table} {options : ExportOptions} {f : ExportFormat}
    {cs : List Char} (hfeed : options.delimiter ≠ "\n") (hwide : t.columns ≠ [] ∨ t.rows = [])
    (h : t.exportAs options f = .ok cs) : f.Ends cs := by
  cases f with
  | csv =>
    rw [exportAs] at h
    split at h
    · next delimiter hdelimiter =>
      refine lines_of_toCsv ?_ hwide h
      rintro rfl
      exact hfeed (String.toList_inj.mp hdelimiter)
    · cases h
  | json => exact unfed_toJson h
  | sql => exact unfed_toInsertions h

end Polystore
