import Polystore.Descriptor
import Polystore.Engine.Catalog
import Polystore.Native.Dialogue

/-!
# MySQL

A session with a MySQL or MariaDB server. The types of columns come as codes.

* `Mysql.typeName`: the name of a type code;
* `Mysql.connect`, `Mysql.fetch`, `Mysql.execute`, `Mysql.close`;
* `Mysql.entries`, `Mysql.columns`: the catalog.
-/

namespace Polystore.Mysql

open Number

def ask (client : Nat) (r : MysqlRequest) : Session r.Answer := Session.ask client (.mysql r)

def typeName (code : Int) : String :=
  match code with
  | 0 => "DECIMAL"
  | 1 => "TINYINT"
  | 2 => "SMALLINT"
  | 3 => "INT"
  | 4 => "FLOAT"
  | 5 => "DOUBLE"
  | 6 => "NULL"
  | 7 => "TIMESTAMP"
  | 8 => "BIGINT"
  | 9 => "MEDIUMINT"
  | 10 => "DATE"
  | 11 => "TIME"
  | 12 => "DATETIME"
  | 13 => "YEAR"
  | 14 => "DATE"
  | 15 => "VARCHAR"
  | 16 => "BIT"
  | 245 => "JSON"
  | 246 => "DECIMAL"
  | 247 => "ENUM"
  | 248 => "SET"
  | 249 => "BLOB"
  | 250 => "BLOB"
  | 251 => "BLOB"
  | 252 => "BLOB"
  | 253 => "VARCHAR"
  | 254 => "CHAR"
  | 255 => "GEOMETRY"
  | _ => "UNKNOWN"

def login (d : Descriptor) (port : Option Int) (timeout : Binary64) : MysqlLogin where
  host := d.resolvedHost
  port
  user := givenText? d.username
  password := d.password.getD ""
  timeout
  database := givenText? d.database
  tls := d.tls

/-- Open a session. The answer is its schema, the database. -/
def connect (client : Nat) (d : Descriptor) (timeout : Binary64) : Session Value := do
  let port ← Session.ofCore d.resolvedPort
  ask client (.connect (login d port timeout))
  return ((givenText? d.database).map Value.text).getD .null

/-- The records of a statement. Its cursor is closed in any case. -/
def records (client : Nat) (sql : String) (arguments : Option (List String)) :
    Session (RecordSet (String × Int)) :=
  Session.atEnd (ask client (.execute sql arguments)) (ask client .closeCursor)

def fetch (client : Nat) (sql : String) : Session (List (List NativeCell)) := do
  let result ← records client sql none
  let columns := result.columns.map fun column => (⟨column.1, typeName column.2⟩ : Column)
  return result.rows.map fun row => List.zipWith NativeCell.mk columns row

def execute (client : Nat) (sql : String) : Session Unit := do
  let _ ← records client sql none

/-- The statement that asks for the tables and views. -/
def entryQuery : String :=
  "SELECT table_name, table_type FROM information_schema.tables "
    ++ "WHERE table_schema = DATABASE() ORDER BY table_name"

/-- The statement that asks for the columns of a table. -/
def columnQuery : String :=
  "SELECT column_name, data_type, is_nullable, column_default, extra "
    ++ "FROM information_schema.columns WHERE table_name = %s AND table_schema = DATABASE() "
    ++ "ORDER BY ordinal_position"

/-- The tables and views with their types. -/
def entries (client : Nat) : Session (List (String × String)) := do
  Session.ofFault ((← records client entryQuery none).rows.mapM catalogEntry)

def columns (client : Nat) (table : String) : Session (List ColumnInfo) := do
  Session.ofFault ((← records client columnQuery (some [table])).rows.mapM informationColumn)

def close (client : Nat) : Session Unit := ask client .close

end Polystore.Mysql
