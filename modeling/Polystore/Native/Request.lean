import Polystore.Failure
import Polystore.ExtendedJson

/-!
# Requests to native clients

A native client is the program library that talks to an engine. All that the engines ask of their
clients is a request, and each request has its type of answers.

* `RecordSet`, `DocumentStream`, `KeyType`: parts of requests and answers;
* `SqliteRequest`, `PostgresRequest`, `MysqlRequest`, `MongoRequest`, `RedisRequest`, each with
  the type of its answers;
* `Request`, `Request.Answer`, `Call`.
-/

namespace Polystore

open Number

/-- Records under columns; what is known about a column depends on the client. -/
structure RecordSet (γ : Type) where
  columns : List γ
  rows : List (List Value)

/-- Documents that come in one by one, and the error that may stand at their end. -/
structure DocumentStream where
  documents : List Value
  failure : Option NativeError

/-! ## An embedded engine -/

/-- The requests to a client of SQLite. -/
inductive SqliteRequest
  | connect (database : String) (timeout : Binary64)
  | execute (sql : String)
  | fetchAll
  | closeCursor
  | script (sql : String)
  | close

/-- The answers of a client of SQLite. -/
def SqliteRequest.Answer : SqliteRequest → Type
  | .execute _ => RecordSet String
  | _ => Unit

/-! ## Servers with SQL -/

/-- How to log in to PostgreSQL. -/
structure PostgresLogin where
  host : String
  port : Option Int
  tls : Bool
  timeout : Binary64
  user : Option String
  password : Option String
  database : Option String

/-- The requests to a client of PostgreSQL. -/
inductive PostgresRequest
  | connect (login : PostgresLogin)
  | fetchValue (sql : String)
  | prepare (sql : String)
  | fetchStatement
  | execute (sql : String)
  | fetch (sql : String) (arguments : List String)
  | close

/-- The answers of a client of PostgreSQL. -/
def PostgresRequest.Answer : PostgresRequest → Type
  | .fetchValue _ => Value
  | .prepare _ => RecordSet Column
  | .fetch .. => List (List Value)
  | _ => Unit

/-- How to log in to MySQL. -/
structure MysqlLogin where
  host : String
  port : Option Int
  user : Option String
  password : String
  timeout : Binary64
  database : Option String
  tls : Bool

/-- The requests to a client of MySQL. -/
inductive MysqlRequest
  | connect (login : MysqlLogin)
  | execute (sql : String) (arguments : Option (List String))
  | closeCursor
  | close

/-- The answers of a client of MySQL; a column has a type code. -/
def MysqlRequest.Answer : MysqlRequest → Type
  | .execute .. => RecordSet (String × Int)
  | _ => Unit

/-! ## Other stores -/

/-- The requests to a client of MongoDB. -/
inductive MongoRequest
  | client (address : String) (milliseconds : Int) (tls : Bool)
  | database (name : String)
  | collection (name : String)
  | find (collection : String) (filter : ExtendedJson.Fields)
  | countDocuments (collection : String)
  | collectionNames
  | close

/-- The answers of a client of MongoDB. -/
def MongoRequest.Answer : MongoRequest → Type
  | .find .. => DocumentStream
  | .countDocuments _ => Value
  | .collectionNames => Value
  | _ => Unit

/-- The types of keys that can be read. -/
inductive KeyType
  | text
  | list
  | hash
  | set
  | sortedSet
deriving DecidableEq, Repr

def KeyType.name : KeyType → String
  | .text => "string"
  | .list => "list"
  | .hash => "hash"
  | .set => "set"
  | .sortedSet => "zset"

/-- The type of keys that a reply names. -/
def KeyType.ofReply? : Value → Option KeyType
  | .text s => [KeyType.text, .list, .hash, .set, .sortedSet].find? (·.name == s)
  | _ => none

/-- How to log in to Redis. -/
structure RedisLogin where
  host : String
  port : Int
  database : Int
  user : Option String
  password : Option String
  tls : Bool
  timeout : Binary64

/-- The requests to a client of Redis. -/
inductive RedisRequest
  | client (login : RedisLogin)
  | ping
  | typeOf (key : Value)
  | read (type : KeyType) (key : Value)
  | sizeOf (type : KeyType) (key : Value)
  | timeToLive (key : Value)
  | keys (pattern : String)
  | command (words : List String)
  | close

/-- The answers of a client of Redis. -/
def RedisRequest.Answer : RedisRequest → Type
  | .client _ => Unit
  | .close => Unit
  | _ => Value

/-! ## All requests -/

/-- A request to any client. -/
inductive Request
  | sqlite (r : SqliteRequest)
  | postgres (r : PostgresRequest)
  | mysql (r : MysqlRequest)
  | mongo (r : MongoRequest)
  | redis (r : RedisRequest)

def Request.Answer : Request → Type
  | .sqlite r => r.Answer
  | .postgres r => r.Answer
  | .mysql r => r.Answer
  | .mongo r => r.Answer
  | .redis r => r.Answer

/-- A request to one client; clients are numbered in the order in which they are opened. -/
structure Call where
  client : Nat
  request : Request

/-- What a client answers, or the error that it raises. -/
abbrev Call.Reply (c : Call) : Type := Except NativeError c.request.Answer

end Polystore
