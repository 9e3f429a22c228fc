import Polystore.Export.Csv
import Polystore.Export.Insert

/-!
# Exporting tables

A table is exported as comma-separated values, as JSON, or as insertions.

* `ExportFormat`, `ExportFormat.ofName?`;
* `Table.records`, `Table.toJson`: a table as a list of maps;
* `ExportOptions`, `Table.exported`.
-/

namespace Polystore

/-- The formats of exports. -/
inductive ExportFormat
  | csv
  | json
  | sql
deriving DecidableEq, Repr

namespace ExportFormat

def all : List ExportFormat := [.csv, .json, .sql]

def name : ExportFormat → String
  | .csv => "csv"
  | .json => "json"
  | .sql => "sql"

def ofName? (s : String) : Option ExportFormat := all.find? (·.name == s)

end ExportFormat

/-- How a table is exported. The headers and the delimiter belong to comma-separated values, the
names of a table and of a dialect to insertions. -/
structure ExportOptions where
  headers : Bool
  delimiter : String
  table : String
  dialect : Option String
deriving Repr

/-- The options that hold if none are given. -/
def ExportOptions.default : ExportOptions := ⟨true, ",", "exported_data", none⟩

namespace Table

/-- The rows as maps from names of columns to cells: of columns with one name the last one counts,
at the place of the first. -/
def records (t : Table) : List (OrderedMap String Value) :=
  t.rows.map fun row => OrderedMap.ofList (t.names.zip row)

def exportLayout : Json.Layout := ⟨true, false, true⟩

/-- A table as a list of maps in JSON. -/
def toJson (t : Table) : Except Fault (List Char) :=
  ((Value.list (t.records.map Value.ofFields)).toJson exportLayout).mapError .json

def exportAs (t : Table) (options : ExportOptions) : ExportFormat → Except Fault (List Char)
  | .csv =>
    match options.delimiter.toList with
    | [delimiter] => t.toCsv options.headers delimiter
    | _ => .error .delimiter
  | .json => t.toJson
  | .sql => t.toInsertions options.table options.dialect

/-- A table in the format with a name. -/
def exported (t : Table) (format : String) (options : ExportOptions) : Except Failure String :=
  match ExportFormat.ofName? format with
  | some f => ((t.exportAs options f).map String.ofList).mapError .fault
  | none => .error (.core (.unsupported (.exportFormat format)))

end Table

end Polystore
