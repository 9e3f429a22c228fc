import Polystore.Backend
import Polystore.Failure
import Polystore.Field
import Polystore.Text.FormEncoding

/-!
# Connection descriptors

A descriptor says which backend to connect to, and how.

* `Descriptor`, `Descriptor.ofFields`: reading it from named values;
* `Descriptor.backend`, `Descriptor.resolvedPort`, `Descriptor.label`;
* `Descriptor.documentAddress`: the address of a document store;
* `databaseIndex`: the number of a database of a key-value store.
-/

namespace Polystore

open Number Text

/-- The parameters of a connection. -/
structure Descriptor where
  id : String
  name : String
  kind : String
  host : String
  port : Option Int
  database : String
  username : String
  password : Option String
  tls : Bool
deriving DecidableEq, Repr

def givenText? (s : String) : Option String := if s.isEmpty then none else some s

/-- The host that is meant if none is given. -/
def localHost : String := "localhost"

namespace Descriptor

/-- The descriptor of named values, or the flaws of all fields in their order. The kind may be named
`type` and the flag for transport security `ssl`; fields of other names do not count. -/
def ofFields (fields : OrderedMap String Value) : Except (List FieldError) Descriptor :=
  let text := fun name default => Field.optional fields name default Field.readText
  let id := Field.required fields "id" Field.readText
  let name := text "name" ""
  let kind := Field.required fields (Field.givenName fields "type" "kind") Field.readText
  let host := text "host" localHost
  let port := Field.optional fields "port" none (Field.nullable Field.readInteger)
  let database := text "database" ""
  let username := text "username" ""
  let password := Field.optional fields "password" none (Field.nullable Field.readText)
  let tls := Field.optional fields (Field.givenName fields "ssl" "tls") false Field.readBool
  match id, name, kind, host, port, database, username, password, tls with
  | .ok id, .ok name, .ok kind, .ok host, .ok port, .ok database, .ok username, .ok password,
      .ok tls => .ok ⟨id, name, kind, host, port, database, username, password, tls⟩
  | _, _, _, _, _, _, _, _, _ =>
    .error (Field.errorOf id ++ Field.errorOf name ++ Field.errorOf kind ++ Field.errorOf host
      ++ Field.errorOf port ++ Field.errorOf database ++ Field.errorOf username
      ++ Field.errorOf password ++ Field.errorOf tls)

variable (d : Descriptor)

def backend : Except CoreError Backend :=
  match Backend.resolve? d.kind with
  | some b => .ok b
  | none => .error (.unsupportedBackend d.kind)

/-- The given port, or the default one of the backend. -/
def resolvedPort : Except CoreError (Option Int) :=
  match d.port with
  | some p => .ok (some p)
  | none => do return (← d.backend).defaultPort?

def label : String := if d.name.isEmpty then d.id else d.name

/-- The given host, or the local one. -/
def resolvedHost : String := if d.host.isEmpty then localHost else d.host

/-- The text of a port, if there is one. -/
def portText? : Option Int → Option String
  | some p => integerText? p
  | none => some "None"

/-- The address of a document store. User and password are in form encoding. A port without a text
has no place in an address. -/
def documentAddress : Except Failure String := do
  let port ← d.resolvedPort.mapError .core
  let shown ← (portText? port).elim (.error (.fault .noText)) .ok
  let place := d.resolvedHost ++ ":" ++ shown ++ "/" ++ d.database
  if d.username.isEmpty then return "mongodb://" ++ place
  else
    return "mongodb://" ++ formEncoded d.username ++ ":" ++ formEncoded (d.password.getD "") ++ "@"
      ++ place

end Descriptor

/-- The number of a database of a key-value store; no text at all stands for zero. -/
def databaseIndex (database : String) : Except CoreError Int :=
  let cs := trim database.toList
  if cs.isEmpty then .ok 0
  else
    match readInteger? cs with
    | some n => .ok n
    | none => .error (.connect (.databaseIndex database))

end Polystore
