import Polystore.Command.Document
import Polystore.Descriptor
import Polystore.Engine.Reply
import Polystore.Native.Dialogue
import Polystore.Schema
import Polystore.Settings

/-!
# MongoDB

A connection to a document store. Errors of its client are errors of the engine; other exceptions
are not watched for.

* `Mongo`, `Mongo.connect`;
* `Mongo.execute`, `Mongo.executeDefinition`, `Mongo.schema`, `Mongo.close`.
-/

namespace Polystore

open Number

/-- A connection to a document store. -/
structure Mongo where
  client : Nat
  database : String

namespace Mongo

def ask (client : Nat) (r : MongoRequest) : Session r.Answer := Session.ask client (.mongo r)

/-- A number of seconds in whole milliseconds. -/
def milliseconds (seconds : Binary64) : Except Fault Int :=
  match seconds.times 1000 with
  | .nan => .error .undefinedTimeout
  | .infinite _ => .error .boundlessTimeout
  | x => .ok (x.truncate?.getD 0)

/-- Open a connection and take its database; if that fails, the client is closed again. -/
def connect (client : Nat) (d : Descriptor) (s : Settings) : Session Mongo := do
  let timeout ← Session.ofFault (milliseconds s.connectTimeout)
  Session.mapFailure asConnectError do
    ask client (.client (← Session.ofResult d.documentAddress) timeout d.tls)
  match ← Session.outcome (ask client (.database d.database)) with
  | .ok () =>
    Session.note (.opened .document)
    return ⟨client, d.database⟩
  | .error f =>
    ask client .close
    throw (asConnectError f)

/-- The fields of a document that a client hands over. -/
def documentFields (v : Value) : Except Fault Document := do
  return normalizeDocument (← replyEntries v)

/-- The documents of a stream; the error at its end is met after all of them. -/
def drain (stream : DocumentStream) : Except Fault (List Document) := do
  let documents ← stream.documents.mapM documentFields
  match stream.failure with
  | none => return documents
  | some e => .error (.native e)

variable (c : Mongo)

/-- The table of the documents that a filter finds. -/
def find (collection : String) (filter : ExtendedJson.Fields) : Session Table := do
  let stream ← ask c.client (.find collection filter)
  let documents ← Session.ofFault (drain stream)
  Session.ofFault ((tabulateDocuments documents).mapError .ragged)

def countColumn : Column := ⟨"count", "Int64"⟩

/-- What an operation asks for: a table, or the reply with a count. -/
def perform (command : DocumentCommand) : Session (Table ⊕ Value) := do
  ask c.client (.collection command.collection)
  match command.operation with
  | .find filter => return .inl (← c.find command.collection filter)
  | .count => return .inr (← ask c.client (.countDocuments command.collection))

def execute (text : String) : Session Table := do
  let command ← Session.ofCore (DocumentCommand.parse text)
  match ← (c.perform command).mapFailure (watching NativeKind.isDocument) with
  | .inl table => return table
  | .inr count =>
    let n ← Session.ofFault (replyInteger count)
    return .single countColumn (.int n)

/-- Run a command and drop its table. -/
def executeDefinition (text : String) : Session Unit := do
  let _ ← c.execute text

/-- The column of the identifiers, which every collection has. -/
def idInfo : ColumnInfo := ⟨idColumn.name, idColumn.type, false, none, true, none⟩

def schema : Session (List SchemaEntry) := do
  let reply ← (ask c.client .collectionNames).mapFailure (watching NativeKind.isDocument)
  let names ← Session.ofFault (replyItems reply)
  return names.map fun name => ⟨name, "collection", .text c.database, [idInfo], none, none⟩

def close : Session Unit := ask c.client .close

end Mongo

end Polystore
