import Polystore.Engine.Mysql
import Polystore.Engine.Postgres
import Polystore.Engine.Sqlite
import Polystore.Settings

/-!
# Relational connections

A relational connection sends SQL as it is and tabulates what comes back. Whatever goes wrong on the
way to the engine is an error of the engine.

* `SqlEngine`, `Relational`;
* `Relational.connect`;
* `Relational.execute`, `Relational.executeDefinition`, `Relational.schema`, `Relational.close`.
-/

namespace Polystore

/-- The relational engines, with the schema that the tables of a session are in. -/
inductive SqlEngine
  | sqlite
  | postgres (schema : Value)
  | mysql (schema : Value)

/-- A connection to a relational engine. -/
structure Relational where
  client : Nat
  engine : SqlEngine

namespace Relational

/-- The engine of a backend after its session is opened; none for a backend of another family. -/
def session? (client : Nat) (d : Descriptor) (s : Settings) : Backend → Option (Session SqlEngine)
  | .sqlite => some do
    Sqlite.connect client d s.connectTimeout
    return .sqlite
  | .postgresql => some do return .postgres (← Postgres.connect client d s.connectTimeout)
  | .mysql => some do return .mysql (← Mysql.connect client d s.connectTimeout)
  | .mariadb => some do return .mysql (← Mysql.connect client d s.connectTimeout)
  | .mongodb => none
  | .redis => none

def connect (client : Nat) (d : Descriptor) (s : Settings) : Session Relational := do
  let backend ← Session.ofCore d.backend
  match session? client d s backend with
  | none => Session.refuse (.unsupportedBackend d.kind)
  | some session =>
    let engine ← session.mapFailure asConnectError
    Session.note (.opened .relational)
    return ⟨client, engine⟩

variable (c : Relational)

/-- The schema that the tables are in. -/
def schemaName : Value :=
  match c.engine with
  | .sqlite => .text Sqlite.schemaName
  | .postgres schema => schema
  | .mysql schema => schema

def fetch (sql : String) : Session (List (List NativeCell)) :=
  match c.engine with
  | .sqlite => Sqlite.fetch c.client sql
  | .postgres _ => Postgres.fetch c.client sql
  | .mysql _ => Mysql.fetch c.client sql

/-- The tables and views with their types. -/
def entries : Session (List (String × String)) :=
  match c.engine with
  | .sqlite => Sqlite.entries c.client
  | .postgres _ => Postgres.entries c.client
  | .mysql _ => Mysql.entries c.client

def columns (table : String) : Session (List ColumnInfo) :=
  match c.engine with
  | .sqlite => Sqlite.columns c.client table
  | .postgres _ => Postgres.columns c.client table
  | .mysql _ => Mysql.columns c.client table

def execute (sql : String) : Session Table := do
  let rows ← (c.fetch sql).mapFailure asNativeError
  Session.ofFault ((tabulate rows).mapError .ragged)

/-- Run statements for their effects. -/
def executeDefinition (sql : String) : Session Unit :=
  Session.mapFailure asNativeError <|
    match c.engine with
    | .sqlite => Sqlite.execute c.client sql
    | .postgres _ => Postgres.execute c.client sql
    | .mysql _ => Mysql.execute c.client sql

/-- A table or view with its columns. -/
def schemaEntry (entry : String × String) : Session SchemaEntry := do
  let columns ← c.columns entry.1
  return ⟨.text entry.1, entryKind entry.2, c.schemaName, columns, none, none⟩

/-- The tables and views with their columns. -/
def schema : Session (List SchemaEntry) :=
  Session.mapFailure asNativeError do (← c.entries).mapM c.schemaEntry

def close : Session Unit :=
  match c.engine with
  | .sqlite => Sqlite.close c.client
  | .postgres _ => Postgres.close c.client
  | .mysql _ => Mysql.close c.client

end Relational

end Polystore
