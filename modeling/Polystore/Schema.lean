import Polystore.Text.Pieces
import Polystore.Value

/-!
# Schemas

What an engine tells about its structure: tables and views with their columns, collections, and
the keys of a key-value store.

* `ColumnInfo`, `SchemaEntry`, `KeyInfo`;
* `entryKind`: whether a catalog type is the type of a view.
-/

namespace Polystore

open Text

/-- What is known about a column. -/
structure ColumnInfo where
  name : String
  type : String
  nullable : Bool
  default : Option String
  isPrimaryKey : Bool
  /-- Table and column that a foreign key refers to. -/
  reference : Option (String × String)
deriving Repr

/-- A table, a view, a collection, or the keys of a store. -/
structure SchemaEntry where
  name : Value
  kind : String
  schema : Value
  columns : List ColumnInfo
  rowCount : Option Nat
  size : Option Nat
deriving Repr

/-- A key of a key-value store; one that never expires has no time to live. -/
structure KeyInfo where
  name : Value
  type : Value
  size : Int
  ttl : Option Int
deriving Repr

/-- The kind of a catalog entry: a view if its type is `view` or contains `VIEW`. -/
def entryKind (type : String) : String :=
  if type = "view" ∨ holds "VIEW".toList type.toList then "view" else "table"

end Polystore
