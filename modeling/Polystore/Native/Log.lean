import Polystore.Native.Dialogue
import Polystore.Text.Upper

/-!
# The log

Every note has a level, and a logger that it belongs to. The settings name a level; notes below it
are not shown.

* `LogLevel`, `LogLevel.severity`;
* `Note.level`, `Note.logger`, `Note.words`, `Note.line`: how a note is shown;
* `threshold`: the least severity that a name stands for;
* `shownNotes`: the lines of what happened in a dialogue.
-/

namespace Polystore

/-- The levels of notes. -/
inductive LogLevel
  | debug
  | info
  | error
deriving DecidableEq, Repr

namespace LogLevel

def name : LogLevel → String
  | .debug => "DEBUG"
  | .info => "INFO"
  | .error => "ERROR"

def severity : LogLevel → Nat
  | .debug => 10
  | .info => 20
  | .error => 40

end LogLevel

namespace Note

def level : Note → LogLevel
  | .opened _ => .debug
  | .replacing => .debug
  | .closeFailed => .error
  | .connected => .info
  | .disconnected => .info
  | .commandFailed => .debug
  | .commandExecuted => .debug

/-- The logger that a note belongs to. -/
def logger : Note → String
  | .opened .relational => "dbdeck.drivers.relational"
  | .opened .document => "dbdeck.drivers.document"
  | .opened .keyValue => "dbdeck.drivers.keyvalue"
  | .replacing => "dbdeck.registry"
  | .closeFailed => "dbdeck.registry"
  | .connected => "dbdeck.surface"
  | .disconnected => "dbdeck.surface"
  | .commandFailed => "dbdeck.surface"
  | .commandExecuted => "dbdeck.surface"

def words : Note → String
  | .opened .relational => "Opened relational session"
  | .opened .document => "Opened document client"
  | .opened .keyValue => "Opened key-value client"
  | .replacing => "Replacing live connection"
  | .closeFailed => "Failed to close connection"
  | .connected => "Connected"
  | .disconnected => "Disconnected"
  | .commandFailed => "Command failed"
  | .commandExecuted => "Command executed"

def line (n : Note) : String := n.level.name ++ " " ++ n.logger ++ ": " ++ n.words

end Note

/-- The names of levels, with the least severity that is shown. -/
def thresholds : List (String × Nat) := [
  ("CRITICAL", 50), ("FATAL", 50), ("ERROR", 40), ("WARN", 30), ("WARNING", 30), ("INFO", 20),
  ("DEBUG", 10), ("NOTSET", 0)]

/-- The least severity that a name stands for, in any case of letters. -/
def threshold (name : String) : Except Fault Nat :=
  let capitals := Text.upperString name
  match thresholds.lookup capitals with
  | some severity => .ok severity
  | none => .error (.logLevel capitals)

/-- The lines of the notes that are severe enough. -/
def shownNotes (least : Nat) (trace : List Happening) : List String :=
  trace.filterMap fun h =>
    match h with
    | .noted n => if least ≤ n.level.severity then some n.line else none
    | .called .. => none

end Polystore
