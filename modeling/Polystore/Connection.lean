import Polystore.Engine.Mongo
import Polystore.Engine.Redis
import Polystore.Engine.Relational

/-!
# Connections

A connection to an engine of any family. What a command text means depends on the family.

* `Connection`, `Connection.connect`;
* `Connection.execute`, `Connection.executeDefinition`, `Connection.schema`, `Connection.close`;
* `Connection.keyValue?`: the connection, if it is one to a key-value store.
-/

namespace Polystore

/-- A connection to an engine. -/
inductive Connection
  | relational (c : Relational)
  | document (c : Mongo)
  | keyValue (c : Redis)

namespace Connection

/-- Open the connection of a descriptor with a new client. -/
def connect (client : Nat) (d : Descriptor) (s : Settings) : Session Connection := do
  let backend ← Session.ofCore d.backend
  match backend.family with
  | .relational => return .relational (← Relational.connect client d s)
  | .document => return .document (← Mongo.connect client d s)
  | .keyValue => return .keyValue (← Redis.connect client d s)

def client : Connection → Nat
  | .relational c => c.client
  | .document c => c.client
  | .keyValue c => c.client

def execute (c : Connection) (text : String) : Session Table :=
  match c with
  | .relational c => c.execute text
  | .document c => c.execute text
  | .keyValue c => c.execute text

def executeDefinition (c : Connection) (text : String) : Session Unit :=
  match c with
  | .relational c => c.executeDefinition text
  | .document c => c.executeDefinition text
  | .keyValue c => c.executeDefinition text

def schema : Connection → Session (List SchemaEntry)
  | .relational c => c.schema
  | .document c => c.schema
  | .keyValue c => c.schema

def close : Connection → Session Unit
  | .relational c => c.close
  | .document c => c.close
  | .keyValue c => c.close

/-- The connection, if it is one to a key-value store. -/
def keyValue? : Connection → Option Redis
  | .keyValue c => some c
  | _ => none

end Connection

end Polystore
