import Polystore.Schema
import Polystore.Json.Printer

/-!
# Reports on schemas

A schema and a list of keys are shown as JSON with one map for every entry.

* `Value.textOrNull`, `Value.intOrNull`;
* `ColumnInfo.toValue`, `SchemaEntry.toValue`, `KeyInfo.toValue`;
* `reportJson`.
-/

namespace Polystore

def Value.textOrNull (s : Option String) : Value := (s.map .text).getD .null

def Value.intOrNull (n : Option Int) : Value := (n.map .int).getD .null

def ColumnInfo.toValue (c : ColumnInfo) : Value :=
  .ofFields [("name", .text c.name), ("type", .text c.type), ("nullable", .bool c.nullable),
    ("default_value", Value.textOrNull c.default), ("is_primary_key", .bool c.isPrimaryKey),
    ("is_foreign_key", .bool c.reference.isSome),
    ("foreign_key_table", Value.textOrNull (c.reference.map Prod.fst)),
    ("foreign_key_column", Value.textOrNull (c.reference.map Prod.snd))]

def SchemaEntry.toValue (e : SchemaEntry) : Value :=
  .ofFields [("name", e.name), ("kind", .text e.kind), ("schema", e.schema),
    ("columns", .list (e.columns.map ColumnInfo.toValue)),
    ("row_count", Value.intOrNull (e.rowCount.map Int.ofNat)),
    ("size", Value.intOrNull (e.size.map Int.ofNat))]

def KeyInfo.toValue (k : KeyInfo) : Value :=
  .ofFields [("name", k.name), ("type", k.type), ("size", .int k.size),
    ("ttl", Value.intOrNull k.ttl)]

def reportLayout : Json.Layout := ⟨true, true, false⟩

def reportJson (entries : List Value) : Except Json.Unwritable String :=
  ((Value.list entries).toJson reportLayout).map String.ofList

end Polystore
