import Polystore.Export
import Polystore.Proofs.Success

/-!
# Reading comma-separated values

A reader goes through a text character by character. A line feed outside quotes ends a record, and
the delimiter ends a field. A field that begins with a double quote is in quotes up to the next
single one; a double one inside stands for itself. An empty line is a record without fields.

* `Csv.Reader`, `Csv.Reader.step`, `Csv.read`;
* `Csv.Reader.run_field`: what a written field leaves behind, in quotes or not;
* `Csv.Reader.run_record`: a written record is read as its fields;
* `Csv.read_written`: what is written is read back;
* **`Csv.read_exported`**: so is the export of every table.
-/

namespace Polystore.Csv

/-- Where a reader stands. -/
inductive Place
  /-- In front of a record. -/
  | record
  /-- In front of a field that is not the first of its record. -/
  | field
  /-- In a field without quotes. -/
  | plain
  /-- In quotes. -/
  | quoted
  /-- Behind a quote that was met in quotes. -/
  | closing
deriving DecidableEq, Repr

/-- A reader: the records that are complete, the complete fields of the next one, the text of the
next field, and the place. -/
structure Reader where
  records : List (List (List Char))
  fields : List (List Char)
  text : List Char
  place : Place
deriving DecidableEq, Repr

namespace Reader

def start : Reader := ⟨[], [], [], .record⟩

/-- Add a character to the field. -/
def push (r : Reader) (c : Char) (place : Place) : Reader :=
  { r with text := r.text ++ [c], place }

def endField (r : Reader) : Reader := ⟨r.records, r.fields ++ [r.text], [], .field⟩

def endRecord (r : Reader) : Reader := ⟨r.records ++ [r.fields ++ [r.text]], [], [], .record⟩

/-- Read one character. -/
def step (delimiter : Char) (r : Reader) (c : Char) : Reader :=
  match r.place with
  | .quoted => if c = '"' then { r with place := .closing } else r.push c .quoted
  | place =>
    if c = '\n' then
      if place = .record then { r with records := r.records ++ [[]] } else r.endRecord
    else if c = delimiter then r.endField
    else if c = '"' then
      match place with
      | .plain => r.push c .plain
      | .closing => r.push c .quoted
      | _ => { r with place := .quoted }
    else r.push c .plain

/-- The records that were read; a last one without a line feed counts. -/
def finish (r : Reader) : List (List (List Char)) :=
  if r.place = .record then r.records else r.endRecord.records

end Reader

/-- The records of a text. -/
def read (delimiter : Char) (cs : List Char) : List (List (List Char)) :=
  (cs.foldl (Reader.step delimiter) .start).finish

variable {delimiter : Char} {cs : List Char} {fields : List (List Char)}

namespace Reader

variable {r : Reader}

/-- Read characters in order. -/
def run (delimiter : Char) (r : Reader) (cs : List Char) : Reader := cs.foldl (step delimiter) r

@[simp] theorem run_nil : r.run delimiter [] = r := rfl

@[simp] theorem run_cons {c : Char} :
    r.run delimiter (c :: cs) = (r.step delimiter c).run delimiter cs := rfl

@[simp] theorem run_append {ds : List Char} :
    r.run delimiter (cs ++ ds) = (r.run delimiter cs).run delimiter ds := List.foldl_append

/-! ## Fields -/

/-- In quotes, doubled quotes stand for single ones, up to a quote that is not doubled. -/
theorem run_doubled (hquote : delimiter ≠ '"') (hplace : r.place = .quoted) :
    r.run delimiter (cs.flatMap (fun x => if x = '"' then ['"', '"'] else [x]) ++ ['"']) =
      ⟨r.records, r.fields, r.text ++ cs, .closing⟩ := by
  induction cs generalizing r with
  | nil => simp [step, hplace]
  | cons c cs ih =>
    rw [List.flatMap_cons, List.append_assoc, run_append]
    split
    · next h =>
      subst h
      have hstep : r.run delimiter ['"', '"'] = r.push '"' .quoted := by
        simp [step, hplace, hquote.symm, push]
      rw [hstep, ih rfl]
      simp [push]
    · next h =>
      have hstep : r.run delimiter [c] = r.push c .quoted := by simp [step, hplace, h]
      rw [hstep, ih rfl]
      simp [push]

/-- Without quotes, characters stand for themselves. -/
theorem run_plain (hplace : r.place = .plain) (h : needsQuotes delimiter cs = false) :
    r.run delimiter cs = ⟨r.records, r.fields, r.text ++ cs, .plain⟩ := by
  induction cs generalizing r with
  | nil => simp [← hplace]
  | cons c cs ih =>
    obtain ⟨⟨hdelimiter, hquote, hfeed⟩, hrest⟩ : (c ≠ delimiter ∧ c ≠ '"' ∧ c ≠ '\n') ∧
        needsQuotes delimiter cs = false := by
      simpa [needsQuotes, and_assoc] using h
    have hstep : r.step delimiter c = r.push c .plain := by
      simp [step, hplace, hfeed, hdelimiter, hquote]
    rw [run_cons, hstep, ih rfl hrest]
    simp [push]

/-- A written field leaves its text behind, and no quotes open. -/
theorem run_field (cs : List Char) (hquote : delimiter ≠ '"') (hplace : r.place = .field)
    (htext : r.text = []) :
    ∃ place, place ≠ .record ∧ place ≠ .quoted ∧
      r.run delimiter (field delimiter cs) = ⟨r.records, r.fields, cs, place⟩ := by
  unfold field
  split
  · have hopen : r.step delimiter '"' = { r with place := .quoted } := by
      simp [step, hplace, hquote.symm]
    refine ⟨.closing, by decide, by decide, ?_⟩
    rw [inQuotes, run_cons, hopen, run_doubled hquote rfl, htext, List.nil_append]
  · next h =>
    cases cs with
    | nil => exact ⟨.field, by decide, by decide, by rw [run_nil, ← hplace, ← htext]⟩
    | cons c cs =>
      obtain ⟨⟨hdelimiter, hquote', hfeed⟩, hrest⟩ : (c ≠ delimiter ∧ c ≠ '"' ∧ c ≠ '\n') ∧
          needsQuotes delimiter cs = false := by
        simpa [needsQuotes, and_assoc] using h
      have hstep : r.step delimiter c = r.push c .plain := by
        simp [step, hplace, hfeed, hdelimiter, hquote']
      refine ⟨.plain, by decide, by decide, ?_⟩
      rw [run_cons, hstep, run_plain rfl hrest]
      simp [push, htext]

theorem step_delimiter (hfeed : delimiter ≠ '\n') (hplace : r.place ≠ .quoted) :
    r.step delimiter delimiter = r.endField := by
  unfold step
  split
  · contradiction
  · rw [if_neg hfeed, if_pos rfl]

theorem step_feed (hrecord : r.place ≠ .record) (hplace : r.place ≠ .quoted) :
    r.step delimiter '\n' = r.endRecord := by
  unfold step
  split
  · contradiction
  · rw [if_pos rfl, if_neg hrecord]

/-! ## Records -/

/-- The fields up to the end of the record are added to those before. -/
theorem run_join (hquote : delimiter ≠ '"') (hfeed : delimiter ≠ '\n') (hfields : fields ≠ [])
    (hplace : r.place = .field) (htext : r.text = []) :
    r.run delimiter (Text.join delimiter (fields.map (field delimiter)) ++ ['\n']) =
      ⟨r.records ++ [r.fields ++ fields], [], [], .record⟩ := by
  induction fields generalizing r with
  | nil => contradiction
  | cons cs fields ih =>
    obtain ⟨place, hrecord, hquoted, hrun⟩ := run_field cs hquote hplace htext
    cases fields with
    | nil =>
      rw [List.map_singleton, Text.join, run_append, hrun, run_cons, step_feed hrecord hquoted]
      rfl
    | cons cs' fields =>
      have hjoin : Text.join delimiter ((cs :: cs' :: fields).map (field delimiter)) ++ ['\n'] =
          field delimiter cs ++ delimiter ::
            (Text.join delimiter ((cs' :: fields).map (field delimiter)) ++ ['\n']) := by
        simp [Text.join]
      rw [hjoin, run_append, hrun, run_cons, step_delimiter hfeed hquoted, ih (by simp) rfl rfl]
      simp [endField]

/-- In front of a record a character other than a line feed is read as in front of a field. -/
theorem step_record {c : Char} (hc : c ≠ '\n') (hplace : r.place = .record) :
    r.step delimiter c = { r with place := .field }.step delimiter c := by
  simp [step, hplace, hc, endField, push]

end Reader

theorem record_of_ne (hfields : fields ≠ [[]]) : record delimiter fields =
    Text.join delimiter (fields.map (field delimiter)) ++ ['\n'] := by
  unfold record
  split
  · contradiction
  · rfl

theorem field_ne_feed {c : Char} {rest : List Char} (h : field delimiter cs = c :: rest) :
    c ≠ '\n' := by
  rintro rfl
  unfold field at h
  split at h
  · cases h
  · next hplain =>
    subst h
    exact hplain (by simp [needsQuotes])

theorem eq_nil_of_field (h : field delimiter cs = []) : cs = [] := by
  unfold field at h
  split at h
  · cases h
  · exact h

/-- A written record of some fields does not begin with a line feed. -/
theorem record_eq_cons (hfeed : delimiter ≠ '\n') (hfields : fields ≠ []) :
    ∃ c rest, record delimiter fields = c :: rest ∧ c ≠ '\n' := by
  by_cases hempty : fields = [[]]
  · subst hempty
    exact ⟨'"', ['"', '\n'], rfl, by decide⟩
  rw [record_of_ne hempty]
  obtain ⟨cs, fields, rfl⟩ := List.exists_cons_of_ne_nil hfields
  rw [List.map_cons]
  cases fields with
  | nil =>
    cases hcs : field delimiter cs with
    | cons c rest => exact ⟨c, _, rfl, field_ne_feed hcs⟩
    | nil => exact absurd (congrArg (fun cs => [cs]) (eq_nil_of_field hcs)) hempty
  | cons cs' fields =>
    cases hcs : field delimiter cs with
    | cons c rest => exact ⟨c, _, rfl, field_ne_feed hcs⟩
    | nil => exact ⟨delimiter, _, rfl, hfeed⟩

namespace Reader

/-- **A written record is read as its fields.** -/
theorem run_record (hquote : delimiter ≠ '"') (hfeed : delimiter ≠ '\n')
    (records : List (List (List Char))) :
    run delimiter ⟨records, [], [], .record⟩ (record delimiter fields) =
      ⟨records ++ [fields], [], [], .record⟩ := by
  by_cases hnone : fields = []
  · subst hnone
    simp [record, Text.join, step]
  by_cases hempty : fields = [[]]
  · subst hempty
    simp [record, inQuotes, step, hquote.symm, endRecord]
  obtain ⟨c, rest, hrecord, hc⟩ := record_eq_cons hfeed hnone
  have hstart : run delimiter ⟨records, [], [], .record⟩ (record delimiter fields) =
      run delimiter ⟨records, [], [], .field⟩ (record delimiter fields) := by
    rw [hrecord, run_cons, run_cons, step_record hc rfl]
  rw [hstart, record_of_ne hempty, run_join hquote hfeed hnone rfl rfl, List.nil_append]

theorem run_records (hquote : delimiter ≠ '"') (hfeed : delimiter ≠ '\n')
    (before records : List (List (List Char))) :
    run delimiter ⟨before, [], [], .record⟩ (records.flatMap (record delimiter)) =
      ⟨before ++ records, [], [], .record⟩ := by
  induction records generalizing before with
  | nil => simp
  | cons fields records ih =>
    rw [List.flatMap_cons, run_append, run_record hquote hfeed, ih, List.append_assoc,
      List.singleton_append]

end Reader

/-- Written records are read back. -/
theorem read_records (hquote : delimiter ≠ '"') (hfeed : delimiter ≠ '\n')
    (records : List (List (List Char))) :
    read delimiter (records.flatMap (record delimiter)) = records := by
  have h := Reader.run_records hquote hfeed [] records
  rw [Reader.run] at h
  rw [read, Reader.start, h]
  rfl

example : read ',' ['\n', '"', '"', '\n'] = [[], [[]]] := by decide

/-! ## Tables -/

/-- The names of columns as a record, if they are asked for. -/
def headerRecords (headers : Bool) (names : List String) : List (List (List Char)) :=
  if headers then [names.map String.toList] else []

/-- The records of names and rows are read back. -/
theorem read_written {rows : List (List Value)} {texts : List (List (List Char))} (headers : Bool)
    (names : List String) (hquote : delimiter ≠ '"') (hfeed : delimiter ≠ '\n')
    (htexts : List.Forall₂ (List.Forall₂ fun v text => cellText v = .ok text) rows texts) :
    ∃ out, written headers delimiter names rows = .ok out ∧
      read delimiter out = headerRecords headers names ++ texts := by
  have hrows : rows.mapM (·.mapM cellText) = .ok texts := by
    rw [Except.mapM_eq_ok_iff]
    exact htexts.imp fun _ _ h => Except.mapM_eq_ok_iff.mpr h
  refine ⟨(headerRecords headers names ++ texts).flatMap (record delimiter), ?_,
    read_records hquote hfeed _⟩
  rw [written, hrows]
  cases headers with
  | true => rfl
  | false => rfl

/-- **Tables in this format are read back.** The first record has the names of the columns, if they
are asked for; the other records have the texts of the cells, row by row. This holds of rows of any
width, and so of the export of every table. -/
theorem read_exported {rows : List (List Value)} {texts : List (List (List Char))} (headers : Bool)
    (names : List String) (hquote : delimiter ≠ '"') (hfeed : delimiter ≠ '\n')
    (htexts : List.Forall₂ (List.Forall₂ fun v text => cellText v = .ok text) rows texts) :
    ∃ out, written headers delimiter names rows = .ok out ∧
      read delimiter out = headerRecords headers names ++ texts ∧
      ∀ (t : Table) (table : String) (dialect : Option String), t.names = names → t.rows = rows →
        t.exported "csv" ⟨headers, String.singleton delimiter, table, dialect⟩ =
          .ok (String.ofList out) := by
  obtain ⟨out, hout, hread⟩ := read_written headers names hquote hfeed htexts
  refine ⟨out, hout, hread, ?_⟩
  rintro t table dialect rfl rfl
  have hcsv : t.exportAs ⟨headers, String.singleton delimiter, table, dialect⟩ .csv = .ok out := by
    simpa [Table.exportAs, Table.toCsv] using hout
  have hname : ExportFormat.ofName? "csv" = some .csv := by decide
  rw [Table.exported, hname]
  dsimp only
  rw [hcsv]
  rfl

/-- Quotes, delimiters, line feeds and an empty cell are read back. -/
theorem read_exported_awkward : '|' ≠ '"' ∧ '|' ≠ '\n' ∧
    ∃ out, written true '|' ["a|b", "\""] [[.text "x\ny", .text ""], [.bool true, .null]] = .ok out ∧
      read '|' out = [["a|b".toList, ['"']], ["x\ny".toList, []], ["true".toList, []]] := by
  have hquote : '|' ≠ '"' := by decide
  have hfeed : '|' ≠ '\n' := by decide
  have htexts : List.Forall₂ (List.Forall₂ fun v text => cellText v = .ok text)
      [[.text "x\ny", .text ""], [.bool true, .null]]
      [["x\ny".toList, []], ["true".toList, []]] :=
    .cons (.cons rfl (.cons rfl .nil)) (.cons (.cons rfl (.cons rfl .nil)) .nil)
  obtain ⟨out, hout, hread, -⟩ := read_exported true ["a|b", "\""] hquote hfeed htexts
  exact ⟨hquote, hfeed, out, hout, hread⟩

end Polystore.Csv
