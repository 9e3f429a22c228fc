import Polystore.Failure
import Polystore.Field
import Polystore.Toml.Reader

/-!
# Settings

The settings of the library are read from named values, or from a file. A file need not be there,
and what it says counts only as far as it makes sense: each setting that it does not give, or gives
a value that is out of place, has its default. Brackets of a file may be nested to any depth.

* `Settings`, `Settings.default`, `Settings.ofFields`;
* `Settings.usableFields`: what a table gives that makes sense; `Settings.ofDocument`;
* `SettingsSource`, `Settings.load`.
-/

namespace Polystore

open Number Text

/-- The settings. -/
structure Settings where
  /-- Seconds to wait for a connection. -/
  connectTimeout : Binary64
  /-- How many commands the history keeps. -/
  historySize : Nat
  keyPattern : String
  logLevel : String
deriving Repr

namespace Settings

def default : Settings := ⟨.ofInt 5, History.defaultCapacity, "*", "WARNING"⟩

/-- A size: an integer that is not negative. -/
def readSize (v : Value) : Except FieldFlaw Nat := do
  let n ← Field.readInteger v
  if n < 0 then .error .tooSmall else return n.toNat

/-- The settings of named values, or the flaws of all fields in their order. -/
def ofFields (fields : OrderedMap String Value) : Except (List FieldError) Settings :=
  let timeout := Field.optional fields "connect_timeout" default.connectTimeout Field.readFloat
  let size := Field.optional fields "history_size" default.historySize readSize
  let pattern := Field.optional fields "default_key_pattern" default.keyPattern Field.readText
  let level := Field.optional fields "log_level" default.logLevel Field.readText
  match timeout, size, pattern, level with
  | .ok timeout, .ok size, .ok pattern, .ok level => .ok ⟨timeout, size, pattern, level⟩
  | _, _, _, _ =>
    .error (Field.errorOf timeout ++ Field.errorOf size ++ Field.errorOf pattern
      ++ Field.errorOf level)

/-! ## Files -/

def scalar? (table : Toml.Fields) (key : String) : Option Value :=
  match OrderedMap.get? table key with
  | some (.scalar v) => some v
  | _ => none

/-- The table that holds the settings: the one named `core` if there is such a key, otherwise the
document. -/
def section? (document : Toml.Fields) : Option Toml.Fields :=
  match OrderedMap.get? document "core" with
  | none => some document
  | some (.table fields) => some fields
  | some _ => none

/-- A number of seconds above zero, as a float. An integer may be beyond the floats. -/
def timeoutValue? (v : Option Value) : Except Fault (Option Value) :=
  match v with
  | some (.int n) =>
    if 0 < n then
      match Binary64.ofInt? n with
      | some x => .ok (some (.float x))
      | none => .error .hugeInteger
    else .ok none
  | some (.float x) => .ok (if x.isPositive then some (.float x) else none)
  | _ => .ok none

/-- An integer that is not negative. -/
def sizeValue? (v : Option Value) : Option Value :=
  match v with
  | some (.int n) => if 0 ≤ n then some (.int n) else none
  | _ => none

/-- A text that is not empty. -/
def textValue? (v : Option Value) : Option Value :=
  match v with
  | some (.text s) => if s.isEmpty then none else some (.text s)
  | _ => none

/-- The named values of a table, as far as they make sense. -/
def usableFields (table : Toml.Fields) : Except Fault (OrderedMap String Value) := do
  let timeout ← timeoutValue? (scalar? table "connect_timeout")
  return OrderedMap.present [("connect_timeout", timeout),
    ("history_size", sizeValue? (scalar? table "history_size")),
    ("default_key_pattern", textValue? (scalar? table "default_key_pattern")),
    ("log_level", textValue? (scalar? table "log_level"))]

/-- The settings of a document: what makes sense there is read as fields are. -/
def ofDocument (document : Toml.Fields) : Except Fault Settings := do
  let fields ←
    match section? document with
    | some table => usableFields table
    | none => .ok []
  (ofFields fields).mapError .settings

end Settings

/-- What stands at the place of the settings file. -/
inductive SettingsSource
  | missing
  | directory
  | file (content : Bytes)

/-- The settings of a file. What is no file or no document has the defaults; what is no text, or has
an integer of too many digits, is a fault. -/
def Settings.load : SettingsSource → Except Fault Settings
  | .missing => .ok default
  | .directory => .ok default
  | .file content =>
    match decodeUtf8? content with
    | none => .error .encoding
    | some source =>
      match Toml.read source.toList with
      | .ok document => ofDocument document
      | .error .form => .ok default
      | .error .digits => .error .noText

end Polystore
