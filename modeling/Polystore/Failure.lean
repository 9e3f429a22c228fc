import Polystore.Field
import Polystore.History
import Polystore.Json.Printer
import Polystore.Json.Reader
import Polystore.Table
import Polystore.Value.Whole

/-!
# Failures

Commands fail in two ways. A *core error* belongs to the taxonomy that callers are told about: each
has a text, and those of commands are kept in the history. A *fault* is an exception of another
origin: it was raised by a native client that the engine does not watch for, or a reply or an
argument had a shape that nobody expects.

* `CommandFlaw`, `ConnectFlaw`, `Unsupported`, `CoreError`, `CoreError.message`;
* `NativeKind`, `NativeError`: what native clients raise;
* `Fault`, `Fault.message`;
* `Failure`.
-/

namespace Polystore

/-- Why the text of a command cannot be read. A star stands for a reason that is not told. -/
inductive CommandFlaw
  | noCollection
  | openFind
  | filterText (source : List Char) (e : Json.Misplaced)
  | filterValue
  | filterShape
  | noWords
  | sql
deriving DecidableEq, Repr

/-- The text for a flaw of a command. -/
def CommandFlaw.message : CommandFlaw → String
  | .noCollection => "Invalid MQL format. Use: collection.command"
  | .openFind => "Unterminated find( ... ) call"
  | .filterText source e => "Invalid find filter: " ++ e.message source
  | .filterValue => "Invalid find filter: *"
  | .filterShape => "Find filter must be a document literal"
  | .noWords => "Empty command"
  | .sql => "*"

/-- Why a connection cannot be opened. -/
inductive ConnectFlaw
  | native (text : String)
  | databaseIndex (database : String)
  /-- A reply to the first probe, in its notation. -/
  | probe (shown : String)
deriving DecidableEq, Repr

/-- The text for a failed connection. -/
def ConnectFlaw.message : ConnectFlaw → String
  | .native text => text
  | .databaseIndex database => "Invalid Redis database index: " ++ Text.quoted database
  | .probe shown => "Unexpected PING reply: " ++ shown

/-- What is recognized and not supported. -/
inductive Unsupported
  | documentCommand (text : String)
  | exportFormat (name : String)
  | keyRead
  | keyListing
deriving DecidableEq, Repr

/-- The text for what is not supported. -/
def Unsupported.message : Unsupported → String
  | .documentCommand text => "Unsupported MQL command: " ++ text
  | .exportFormat name => "Unsupported export format: " ++ name
  | .keyRead => "Key reads require a key-value connection"
  | .keyListing => "Key listing requires a key-value connection"

/-- The errors that callers are told about. -/
inductive CoreError
  | unsupportedBackend (kind : String)
  | connect (why : ConnectFlaw)
  | notConnected
  | malformed (why : CommandFlaw)
  | native (text : String)
  | unsupported (what : Unsupported)
deriving DecidableEq, Repr

def CoreError.message : CoreError → String
  | .unsupportedBackend kind => "Unsupported database type: " ++ kind
  | .connect why => why.message
  | .notConnected => "Not connected"
  | .malformed why => why.message
  | .native text => text
  | .unsupported what => what.message

/-! ## Native errors and faults -/

/-- The kinds of errors that native clients raise. -/
inductive NativeKind
  /-- The errors of a key-value client. -/
  | keyValue
  | keyValueResponse
  | keyValueConnection
  /-- The errors of a document client. -/
  | document
  | documentOperation
  | invalidName
  | configuration
  /-- Errors of no client in particular. -/
  | system
  | value
  | runtime
  | type
deriving DecidableEq, Repr

/-- Whether a key-value client raises errors of a kind. -/
def NativeKind.isKeyValue (k : NativeKind) : Bool :=
  k matches .keyValue | .keyValueResponse | .keyValueConnection

/-- Whether a document client raises errors of a kind. -/
def NativeKind.isDocument (k : NativeKind) : Bool :=
  k matches .document | .documentOperation | .invalidName | .configuration

/-- An error of a native client. -/
structure NativeError where
  kind : NativeKind
  text : String
deriving DecidableEq, Repr

/-- The exceptions outside the taxonomy. -/
inductive Fault
  | native (e : NativeError)
  | ragged (r : Ragged)
  | capacity (flaw : CapacityFlaw)
  | integer (why : NoInteger)
  | json (why : Json.Unwritable)
  /-- A value without a text. -/
  | noText
  /-- A record with too few cells. -/
  | missingCell
  /-- A reply that cannot be gone through. -/
  | noItems (typeName : String)
  /-- A reply that has no entries. -/
  | noEntries (typeName : String)
  /-- A scored member that is no pair. -/
  | noPair
  /-- A reply that cannot be looked up. -/
  | noKey (typeName : String)
  /-- A number of milliseconds beyond all numbers. -/
  | boundlessTimeout
  /-- A number of milliseconds that is not a number. -/
  | undefinedTimeout
  /-- An integer beyond the finite floats. -/
  | hugeInteger
  /-- Settings whose fields cannot be read. -/
  | settings (errors : List FieldError)
  /-- A settings file that is no text. -/
  | encoding
  | logLevel (name : String)
  | dialect (name : String)
  | delimiter
  | tableName
  /-- The name of a table in which a mark is not closed. -/
  | openMark
  /-- A value that no literal of SQL stands for. -/
  | noLiteral (typeName : String)
deriving DecidableEq, Repr

def Fault.message : Fault → String
  | .native e => e.text
  | .ragged r => r.message
  | .capacity flaw => flaw.message
  | .integer why => why.message
  | .json (.kind name) => "Object of type " ++ name ++ " is not JSON serializable"
  | .json (.key name) => "keys must be str, int, float, bool or None, not " ++ name
  | .json _ => "Exceeds the limit (4300 digits) for integer string conversion; "
      ++ "use sys.set_int_max_str_digits() to increase the limit"
  | .noText => "Exceeds the limit (4300 digits) for integer string conversion; "
      ++ "use sys.set_int_max_str_digits() to increase the limit"
  | .missingCell => "tuple index out of range"
  | .noItems name => "'" ++ name ++ "' object is not iterable"
  | .noEntries name => "'" ++ name ++ "' object has no attribute 'items'"
  | .noPair => "not enough values to unpack (expected 2)"
  | .noKey name => "unhashable type: '" ++ name ++ "'"
  | .boundlessTimeout => "cannot convert float infinity to integer"
  | .undefinedTimeout => "cannot convert float NaN to integer"
  | .hugeInteger => "int too large to convert to float"
  | .settings errors => FieldError.message errors
  | .encoding => "invalid start byte"
  | .logLevel name => "Unknown level: " ++ Text.quoted name
  | .dialect name => "Unknown dialect '" ++ name ++ "'."
  | .delimiter => "\"delimiter\" must be a 1-character string"
  | .tableName => "Failed to parse the name of the table"
  | .openMark => "Error tokenizing the name of the table"
  | .noLiteral name => "Cannot convert a value of type " ++ name

/-- Why an operation has no result. -/
inductive Failure
  | core (e : CoreError)
  | fault (f : Fault)
deriving DecidableEq, Repr

def Failure.message : Failure → String
  | .core e => e.message
  | .fault f => f.message

end Polystore
