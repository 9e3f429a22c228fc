import Polystore.Descriptor
import Polystore.Engine.Catalog
import Polystore.Native.Dialogue

/-!
# SQLite

A session with an embedded engine. Its cells have no declared types: the type of each cell is the
storage class of its value.

* `Sqlite.connect`, `Sqlite.fetch`, `Sqlite.execute`, `Sqlite.close`;
* `Sqlite.entries`, `Sqlite.columns`: the catalog;
* `Sqlite.columnQuery`: the statement that asks for the columns of a table.
-/

namespace Polystore.Sqlite

open Number

/-- The database that is meant if none is given. -/
def transient : String := ":memory:"

def schemaName : String := "main"

def ask (client : Nat) (r : SqliteRequest) : Session r.Answer := Session.ask client (.sqlite r)

def connect (client : Nat) (d : Descriptor) (timeout : Binary64) : Session Unit :=
  ask client (.connect (if d.database.isEmpty then transient else d.database) timeout)

/-- The records of a statement. Its cursor is closed in any case. -/
def records (client : Nat) (sql : String) : Session (RecordSet String) := do
  let result ← ask client (.execute sql)
  Session.atEnd (ask client .fetchAll) (ask client .closeCursor)
  return result

/-- A cell under the storage class of its value. -/
def nativeCell (name : String) (v : Value) : NativeCell := ⟨⟨name, v.storageClass⟩, v⟩

def fetch (client : Nat) (sql : String) : Session (List (List NativeCell)) := do
  let result ← records client sql
  return result.rows.map fun row => List.zipWith nativeCell result.columns row

def execute (client : Nat) (sql : String) : Session Unit := ask client (.script sql)

/-- The statement that asks for the tables and views. -/
def entryQuery : String :=
  "SELECT name, type FROM ( SELECT name, 'table' AS type FROM sqlite_master WHERE type = 'table' "
    ++ "UNION ALL SELECT name, 'view' AS type FROM sqlite_master WHERE type = 'view' ) "
    ++ "ORDER BY name"

/-- A name between double quotes; a quote inside is doubled. -/
def quotedName (name : List Char) : List Char :=
  '"' :: (name.flatMap fun c => if c = '"' then ['"', '"'] else [c]) ++ ['"']

/-- The statement that asks for the columns of a table. -/
def columnQuery (table : String) : String :=
  "PRAGMA table_info(" ++ String.ofList (quotedName table.toList) ++ ")"

/-- The tables and views with their types. -/
def entries (client : Nat) : Session (List (String × String)) := do
  Session.ofFault ((← records client entryQuery).rows.mapM catalogEntry)

def columns (client : Nat) (table : String) : Session (List ColumnInfo) := do
  Session.ofFault ((← records client (columnQuery table)).rows.mapM pragmaColumn)

def close (client : Nat) : Session Unit := ask client .close

end Polystore.Sqlite
