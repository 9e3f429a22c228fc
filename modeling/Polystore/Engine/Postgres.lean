import Polystore.Descriptor
import Polystore.Engine.Catalog
import Polystore.Native.Dialogue

/-!
# PostgreSQL

A session with a PostgreSQL server. Statements are prepared, and a prepared statement tells the
names and types of its columns.

* `Postgres.connect`, `Postgres.fetch`, `Postgres.execute`, `Postgres.close`;
* `Postgres.entries`, `Postgres.columns`: the catalog.
-/

namespace Polystore.Postgres

open Number

def ask (client : Nat) (r : PostgresRequest) : Session r.Answer := Session.ask client (.postgres r)

def login (d : Descriptor) (port : Option Int) (timeout : Binary64) : PostgresLogin where
  host := d.resolvedHost
  port
  tls := d.tls
  timeout
  user := givenText? d.username
  password := d.password.bind givenText?
  database := givenText? d.database

/-- Open a session and ask for its schema; if there is no answer, the session is closed again. -/
def connect (client : Nat) (d : Descriptor) (timeout : Binary64) : Session Value := do
  let port ← Session.ofCore d.resolvedPort
  ask client (.connect (login d port timeout))
  Session.onFailure (ask client (.fetchValue "SELECT current_schema()")) (ask client .close)

def fetch (client : Nat) (sql : String) : Session (List (List NativeCell)) := do
  let result ← ask client (.prepare sql)
  ask client .fetchStatement
  return result.rows.map fun row => List.zipWith NativeCell.mk result.columns row

/-- Run statements for their effects. -/
def execute (client : Nat) (sql : String) : Session Unit := ask client (.execute sql)

/-- The statement that asks for the tables and views. -/
def entryQuery : String :=
  "SELECT table_name, table_type FROM information_schema.tables "
    ++ "WHERE table_schema = current_schema() ORDER BY table_name"

/-- The statement that asks for the columns of a table, each with the constraints that it is part
of. -/
def columnQuery : String :=
  "SELECT c.column_name, c.data_type, c.is_nullable, c.column_default, "
    ++ "( SELECT string_agg(tc.constraint_type, ', ') FROM information_schema.key_column_usage k "
    ++ "JOIN information_schema.table_constraints tc ON tc.constraint_name = k.constraint_name "
    ++ "AND tc.table_schema = k.table_schema AND tc.table_name = k.table_name "
    ++ "WHERE k.table_schema = c.table_schema AND k.table_name = c.table_name "
    ++ "AND k.column_name = c.column_name ) AS extra FROM information_schema.columns c "
    ++ "WHERE c.table_schema = current_schema() AND c.table_name = $1 ORDER BY c.ordinal_position"

/-- The tables and views with their types. -/
def entries (client : Nat) : Session (List (String × String)) := do
  Session.ofFault ((← ask client (.fetch entryQuery [])).mapM catalogEntry)

def columns (client : Nat) (table : String) : Session (List ColumnInfo) := do
  Session.ofFault ((← ask client (.fetch columnQuery [table])).mapM informationColumn)

def close (client : Nat) : Session Unit := ask client .close

end Polystore.Postgres
