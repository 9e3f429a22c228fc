import Polystore.Native.Dialogue

/-!
# Scripted clients

A script stands in for native clients. It holds a queue of replies for each method; a method without
a reply left answers with a default.

* `Request.method`: the name of the method of a request;
* `Scripted`, `Script`;
* `Script.responder`.
-/

namespace Polystore

def Request.method : Request → String
  | .sqlite (.connect ..) => "sqlite.connect"
  | .sqlite (.execute _) => "sqlite.execute"
  | .sqlite .fetchAll => "sqlite.fetchall"
  | .sqlite .closeCursor => "sqlite.cursor_close"
  | .sqlite (.script _) => "sqlite.executescript"
  | .sqlite .close => "sqlite.close"
  | .postgres (.connect _) => "pg.connect"
  | .postgres (.fetchValue _) => "pg.fetchval"
  | .postgres (.prepare _) => "pg.prepare"
  | .postgres .fetchStatement => "pg.statement_fetch"
  | .postgres (.execute _) => "pg.execute"
  | .postgres (.fetch ..) => "pg.fetch"
  | .postgres .close => "pg.close"
  | .mysql (.connect _) => "mysql.connect"
  | .mysql (.execute ..) => "mysql.execute"
  | .mysql .closeCursor => "mysql.cursor_close"
  | .mysql .close => "mysql.close"
  | .mongo (.client ..) => "mongo.client"
  | .mongo (.database _) => "mongo.database"
  | .mongo (.collection _) => "mongo.collection"
  | .mongo (.find ..) => "mongo.find"
  | .mongo (.countDocuments _) => "mongo.count_documents"
  | .mongo .collectionNames => "mongo.list_collection_names"
  | .mongo .close => "mongo.close"
  | .redis (.client _) => "redis.client"
  | .redis .ping => "redis.ping"
  | .redis (.typeOf _) => "redis.type"
  | .redis (.read .text _) => "redis.get"
  | .redis (.read .list _) => "redis.lrange"
  | .redis (.read .hash _) => "redis.hgetall"
  | .redis (.read .set _) => "redis.smembers"
  | .redis (.read .sortedSet _) => "redis.zrange"
  | .redis (.sizeOf .text _) => "redis.strlen"
  | .redis (.sizeOf .list _) => "redis.llen"
  | .redis (.sizeOf .hash _) => "redis.hlen"
  | .redis (.sizeOf .set _) => "redis.scard"
  | .redis (.sizeOf .sortedSet _) => "redis.zcard"
  | .redis (.timeToLive _) => "redis.ttl"
  | .redis (.keys _) => "redis.keys"
  | .redis (.command _) => "redis.execute_command"
  | .redis .close => "redis.aclose"

/-- A reply of a script. -/
inductive Scripted
  | raised (e : NativeError)
  | value (v : Value)
  /-- Records; beside the name of a column stands what else is known about it. -/
  | records (columns : List (String × Value)) (rows : List (List Value))
  | documents (stream : DocumentStream)

namespace Scripted

/-- The records of a reply; there are none by default. -/
def recordSet {γ : Type} (column : String × Value → γ) : Scripted → RecordSet γ
  | .records columns rows => ⟨columns.map column, rows⟩
  | _ => ⟨[], []⟩

/-- The value of a reply, or the default. -/
def valueOr (default : Value) : Scripted → Value
  | .value v => v
  | _ => default

/-- The documents of a reply; there are none by default. -/
def stream : Scripted → DocumentStream
  | .documents stream => stream
  | _ => ⟨[], none⟩

/-- The reply of a client of Redis by default. -/
def redisDefault : RedisRequest → Value
  | .ping => .bool true
  | .typeOf _ => .text "none"
  | .read .text _ => .null
  | .read .hash _ => .map []
  | .read _ _ => .list []
  | .sizeOf .. => .int 0
  | .timeToLive _ => .int (-1)
  | .keys _ => .list []
  | _ => .null

/-- The name of a column with the label of its type. -/
def labelled (column : String × Value) : Column := ⟨column.1, column.2.asText?.getD ""⟩

/-- The name of a column with the code of its type. -/
def coded (column : String × Value) : String × Int := (column.1, column.2.asInt?.getD (-1))

/-- The answer to a request of SQLite. -/
def sqliteAnswer (s : Scripted) : (r : SqliteRequest) → r.Answer
  | .execute _ => s.recordSet Prod.fst
  | .connect .. => ()
  | .fetchAll => ()
  | .closeCursor => ()
  | .script _ => ()
  | .close => ()

/-- The answer to a request of PostgreSQL. -/
def postgresAnswer (s : Scripted) : (r : PostgresRequest) → r.Answer
  | .fetchValue _ => s.valueOr (.text "public")
  | .prepare _ => s.recordSet labelled
  | .fetch .. => (s.recordSet labelled).rows
  | .connect _ => ()
  | .fetchStatement => ()
  | .execute _ => ()
  | .close => ()

/-- The answer to a request of MySQL. -/
def mysqlAnswer (s : Scripted) : (r : MysqlRequest) → r.Answer
  | .execute .. => s.recordSet coded
  | .connect _ => ()
  | .closeCursor => ()
  | .close => ()

/-- The answer to a request of MongoDB. -/
def mongoAnswer (s : Scripted) : (r : MongoRequest) → r.Answer
  | .find .. => s.stream
  | .countDocuments _ => s.valueOr (.int 0)
  | .collectionNames => s.valueOr (.list [])
  | .client .. => ()
  | .database _ => ()
  | .collection _ => ()
  | .close => ()

/-- The answer to a request of Redis. -/
def redisAnswer (s : Scripted) : (r : RedisRequest) → r.Answer
  | .client _ => ()
  | .close => ()
  | .ping => s.valueOr (redisDefault .ping)
  | .typeOf key => s.valueOr (redisDefault (.typeOf key))
  | .read type key => s.valueOr (redisDefault (.read type key))
  | .sizeOf type key => s.valueOr (redisDefault (.sizeOf type key))
  | .timeToLive key => s.valueOr (redisDefault (.timeToLive key))
  | .keys pattern => s.valueOr (redisDefault (.keys pattern))
  | .command words => s.valueOr (redisDefault (.command words))

def answer (s : Scripted) : (r : Request) → r.Answer
  | .sqlite r => s.sqliteAnswer r
  | .postgres r => s.postgresAnswer r
  | .mysql r => s.mysqlAnswer r
  | .mongo r => s.mongoAnswer r
  | .redis r => s.redisAnswer r

end Scripted

/-- The replies that are left, for each method. -/
abbrev Script := OrderedMap String (List Scripted)

namespace Script

/-- The next reply of a method; there is none if the default is meant. -/
def next (script : Script) (method : String) : Option Scripted × Script :=
  match OrderedMap.get? script method with
  | some (reply :: rest) => (some reply, OrderedMap.insert script method rest)
  | _ => (none, script)

def responder : Responder Script where
  reply := fun script c =>
    match script.next c.request.method with
    | (some (.raised e), rest) => (.error e, rest)
    | (some s, rest) => (.ok (s.answer c.request), rest)
    | (none, rest) => (.ok ((Scripted.records [] []).answer c.request), rest)

end Script

end Polystore
