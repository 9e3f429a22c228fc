import Polystore.Command.KeyValue
import Polystore.Descriptor
import Polystore.Engine.Reply
import Polystore.Native.Dialogue
import Polystore.Schema
import Polystore.Settings

/-!
# Redis

A connection to a key-value store. A key is read with the request that fits its type. Errors of the
client are errors of the engine; other exceptions are not watched for.

* `Redis`, `Redis.connect`;
* `Redis.execute`, `Redis.executeDefinition`, `Redis.schema`, `Redis.close`;
* `Redis.value`: the table of one key;
* `Redis.keys`: the keys that match a pattern, with type, size and time to live.
-/

namespace Polystore

open Number

/-- A connection to a key-value store. -/
structure Redis where
  client : Nat
  database : String

namespace Redis

def ask (client : Nat) (r : RedisRequest) : Session r.Answer := Session.ask client (.redis r)

/-- The port that is meant if none is given, or zero. -/
def standardPort : Int := 6379

def login (d : Descriptor) (port : Option Int) (database : Int) (timeout : Binary64) :
    RedisLogin where
  host := d.resolvedHost
  port := if port.getD 0 = 0 then standardPort else port.getD 0
  database
  user := givenText? d.username
  password := d.password.bind givenText?
  tls := d.tls
  timeout

def abandon {α : Type} (client : Nat) (f : Failure) : Session α := do
  ask client .close
  throw f

/-- What is wrong with a reply to the first probe: anything but the truth value `true` is. -/
def probeFlaw (reply : Value) : Failure :=
  match reply.notated? with
  | some shown => .core (.connect (.probe shown))
  | none => .fault .noText

/-- Open a connection and probe it; if the probe fails, the client is closed again. -/
def connect (client : Nat) (d : Descriptor) (s : Settings) : Session Redis := do
  let database ← Session.ofCore (databaseIndex d.database)
  let port ← Session.ofCore d.resolvedPort
  ask client (.client (login d port database s.connectTimeout))
  match ← Session.outcome (ask client .ping) with
  | .error (.fault (.native e)) =>
    if e.kind.isKeyValue then abandon client (.core (.connect (.native e.text)))
    else Session.fault (.native e)
  | .error f => throw f
  | .ok (.bool true) =>
    Session.note (.opened .keyValue)
    return ⟨client, d.database⟩
  | .ok reply => abandon client (probeFlaw reply)

/-! ## Reading one key -/

def storedText (v : Value) : Value := normalize v (some "TEXT")

def storedScore (v : Value) : Value := normalize v (some "DOUBLE")

/-- The columns of the table of a key. -/
def keyColumns : KeyType → List Column
  | .text => [⟨"key", "String"⟩, ⟨"value", "String"⟩]
  | .list => [⟨"index", "Int"⟩, ⟨"value", "String"⟩]
  | .hash => [⟨"field", "String"⟩, ⟨"value", "String"⟩]
  | .set => [⟨"member", "String"⟩]
  | .sortedSet => [⟨"member", "String"⟩, ⟨"score", "Double"⟩]

/-- The rows of a list, with positions from `position` on. -/
def listRows : (position : Nat) → List Value → List (List Value)
  | _, [] => []
  | position, v :: rest => [.int position, storedText v] :: listRows (position + 1) rest

/-- The rows of the table of a key, from the reply to its reading. -/
def keyRows (key : String) (reply : Value) : KeyType → Except Fault (List (List Value))
  | .text => .ok [[.text key, storedText reply]]
  | .list => do return listRows 1 (← replyItems reply)
  | .hash => do return (← replyEntries reply).map fun (field, v) => [field, storedText v]
  | .set => do return (← replyItems reply).map fun v => [storedText v]
  | .sortedSet => do
    let pairs ← (← replyItems reply).mapM replyPair
    return pairs.map fun (member, score) => [storedText member, storedScore score]

def errorColumn : Column := ⟨"error", "String"⟩

variable (c : Redis)

/-- The type of a key, and the table of a key of a type that can be read. -/
def readKey (key : String) : Session (Value × Option Table) := do
  let reply ← ask c.client (.typeOf (.text key))
  match KeyType.ofReply? reply with
  | none => return (reply, none)
  | some type =>
    let content ← ask c.client (.read type (.text key))
    let rows ← Session.ofFault (keyRows key content type)
    let table ← Session.ofFault ((Table.build (keyColumns type) rows).mapError .ragged)
    return (reply, some table)

def value (key : String) : Session Table := do
  match ← (c.readKey key).mapFailure (watching NativeKind.isKeyValue) with
  | (_, some table) => return table
  | (type, none) =>
    let name ← Session.ofFault (replyText type)
    return .single errorColumn (.text ("Unsupported type: " ++ name))

/-! ## Listing keys -/

/-- The size of a key of a type that has one; other keys have none. -/
def sizeOf (type : Option KeyType) (key : Value) : Session Int :=
  match type with
  | none => pure 0
  | some type => do Session.ofFault (replyInteger (← ask c.client (.sizeOf type key)))

/-- What is known about a key. A negative time to live is none. -/
def keyInfo (key : Value) : Session KeyInfo := do
  let type ← Session.ofFault (replyKey (← ask c.client (.typeOf key)))
  let size ← c.sizeOf (KeyType.ofReply? type) key
  let ttl ← Session.ofFault (replyInteger (← ask c.client (.timeToLive key)))
  return ⟨key, type, size, if 0 ≤ ttl then some ttl else none⟩

def keys (pattern : String) : Session (List KeyInfo) :=
  Session.mapFailure (watching NativeKind.isKeyValue) do
    let reply ← ask c.client (.keys pattern)
    (← Session.ofFault (replyItems reply)).mapM c.keyInfo

/-! ## Commands -/

/-- The table of a command that went well. -/
def okTable : Table := .single ⟨"OK", "String"⟩ (.text "OK")

/-- Send the words of a command line. -/
def execute (text : String) : Session Table := do
  let command ← Session.ofCore (KeyValueCommand.parse text)
  let _ ← (ask c.client (.command command.words)).mapFailure (watching NativeKind.isKeyValue)
  return okTable

/-- Send a command line and drop its table. -/
def executeDefinition (text : String) : Session Unit := do
  let _ ← c.execute text

/-- The columns of the space of keys. -/
def keyspaceColumns : List ColumnInfo := [
  ⟨"name", "String", false, none, true, none⟩,
  ⟨"type", "String", false, none, false, none⟩,
  ⟨"size", "Int", false, none, false, none⟩]

/-- The space of keys, with their number. -/
def schema : Session (List SchemaEntry) := do
  let infos ← c.keys "*"
  return [⟨.text "keys", "redis_keys", .text c.database, keyspaceColumns, some infos.length, none⟩]

def close : Session Unit := ask c.client .close

end Redis

end Polystore
