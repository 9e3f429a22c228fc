import Polystore.Value.Normal

/-!
# Tables

Every engine answers with a table: columns with a name and a type label, and rows that are as wide
as the columns. A relational engine hands over rows of named and typed cells; a document store
hands over documents, whose fields become columns as they are first seen.

* `Column`, `Table`, `Ragged`, `Table.build`;
* `NativeCell`, `tabulate`: the columns of the first row, each cell normalized under its own type;
* `tabulateDocuments`: columns in the order of first occurrence, absent fields are null;
* `QueryResult`: a table as the answer of a command.
-/

namespace Polystore

/-- A column of a table: its name and the label of its type. -/
structure Column where
  name : String
  type : String
deriving DecidableEq, Repr, Inhabited

/-- The first row that is not as wide as the columns. -/
structure Ragged where
  row : Nat
  width : Nat
  expected : Nat
deriving DecidableEq, Repr

/-- The text that reports a ragged row. -/
def Ragged.message (r : Ragged) : String :=
  "Row " ++ toString r.row ++ " has " ++ toString r.width ++ " values, expected "
    ++ toString r.expected

/-- Columns and rows of one width. -/
structure Table where
  columns : List Column
  rows : List (List Value)
  width : ∀ row ∈ rows, row.length = columns.length

namespace Table

/-- The first row that has not the expected width, counting from `i`. -/
def firstRagged? (expected : Nat) : (i : Nat) → List (List Value) → Option Ragged
  | _, [] => none
  | i, row :: rest =>
    if row.length = expected then firstRagged? expected (i + 1) rest
    else some ⟨i, row.length, expected⟩

theorem firstRagged?_eq_none_iff {expected i : Nat} {rows : List (List Value)} :
    firstRagged? expected i rows = none ↔ ∀ row ∈ rows, row.length = expected := by
  induction rows generalizing i with
  | nil => simp [firstRagged?]
  | cons row rest ih => by_cases h : row.length = expected <;> simp [firstRagged?, h, ih]

/-- A table of columns and rows, unless a row is ragged. -/
def build (columns : List Column) (rows : List (List Value)) : Except Ragged Table :=
  match h : firstRagged? columns.length 0 rows with
  | none => .ok ⟨columns, rows, firstRagged?_eq_none_iff.1 h⟩
  | some ragged => .error ragged

/-- The table without columns and rows. -/
def empty : Table := ⟨[], [], by simp⟩

/-- A table of one row with one cell. -/
def single (column : Column) (cell : Value) : Table := ⟨[column], [[cell]], by simp⟩

variable (t : Table)

def names : List String := t.columns.map Column.name

def types : List String := t.columns.map Column.type

def rowCount : Nat := t.rows.length

end Table

/-- A cell as a relational engine hands it over. -/
structure NativeCell where
  column : Column
  value : Value

def NativeCell.normal (cell : NativeCell) : Value := normalize cell.value (some cell.column.type)

def tabulate : List (List NativeCell) → Except Ragged Table
  | [] => .ok .empty
  | first :: rest =>
    Table.build (first.map NativeCell.column) ((first :: rest).map (·.map NativeCell.normal))

/-! ## Tables of documents -/

abbrev Document := OrderedMap String Value

/-- The column of the identifiers, which every table of documents has. -/
def idColumn : Column := ⟨"_id", "ObjectId"⟩

/-- Give the fields of a document columns, unless they have one. -/
def addColumns (columns : List Column) (document : Document) : List Column :=
  document.foldl
    (fun columns entry =>
      if entry.1 ∈ columns.map Column.name then columns
      else columns ++ [⟨entry.1, entry.2.documentLabel⟩])
    columns

/-- The cells of a document under columns. -/
def documentRow (columns : List Column) (document : Document) : List Value :=
  columns.map fun column => (OrderedMap.get? document column.name).getD .null

/-- Columns and rows while documents come in: a row has the columns known at its time. -/
structure Accretion where
  columns : List Column
  rows : List (List Value)

namespace Accretion

def start : Accretion := ⟨[idColumn], []⟩

def add (a : Accretion) (document : Document) : Accretion :=
  let columns := addColumns a.columns document
  ⟨columns, a.rows ++ [documentRow columns document]⟩

def finish (a : Accretion) : Except Ragged Table :=
  Table.build a.columns
    (a.rows.map fun row => row ++ List.replicate (a.columns.length - row.length) .null)

end Accretion

/-- The table of documents in normal form. -/
def tabulateDocuments (documents : List Document) : Except Ragged Table :=
  (documents.foldl Accretion.add .start).finish

/-! ## Answers of commands -/

/-- A table as the answer of a command, with the number of affected rows and an error text. -/
structure QueryResult where
  table : Table
  affectedRows : Nat
  error : Option String

/-- The answer that carries a table and nothing else. -/
def QueryResult.ofTable (t : Table) : QueryResult := ⟨t, 0, none⟩

end Polystore
