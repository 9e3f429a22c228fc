/-!
# History of commands

The history keeps the latest commands, newest first, up to its capacity. A command with an error
text has failed.

* `HistoryEntry`, `HistoryEntry.success`;
* `History`, `History.ofSize`: a history for a requested capacity;
* `History.record`, `History.clear`, `History.entries`: all entries, or those of one connection.
-/

namespace Polystore

/-- One executed command and its outcome. -/
structure HistoryEntry where
  connection : String
  command : String
  /-- The time that the command took, in milliseconds. -/
  elapsed : Int
  error : Option String
deriving DecidableEq, Repr

/-- A command succeeds if it has no error text. -/
def HistoryEntry.success (e : HistoryEntry) : Bool := e.error.isNone

/-- A capacity that no history can have. -/
inductive CapacityFlaw
  | negative
  | huge
deriving DecidableEq, Repr

/-- The text that reports a bad capacity. -/
def CapacityFlaw.message : CapacityFlaw → String
  | .negative => "maxlen must be non-negative"
  | .huge => "maxlen is too large"

/-- The latest entries, newest first. -/
structure History where
  capacity : Nat
  log : List HistoryEntry
  bounded : log.length ≤ capacity
deriving Repr

namespace History

/-- The capacity unless another one is asked for. -/
def defaultCapacity : Nat := 500

def maxCapacity : Int := 9223372036854775807

def empty (capacity : Nat) : History := ⟨capacity, [], Nat.zero_le _⟩

/-- The history without entries for a requested capacity. -/
def ofSize (size : Int) : Except CapacityFlaw History :=
  if maxCapacity < size ∨ size < -maxCapacity - 1 then .error .huge
  else if size < 0 then .error .negative
  else .ok (empty size.toNat)

/-- Put an entry in front and drop what exceeds the capacity. -/
def record (h : History) (e : HistoryEntry) : History :=
  ⟨h.capacity, (e :: h.log).take h.capacity, List.length_take_le _ _⟩

def clear (h : History) : History := empty h.capacity

def size (h : History) : Nat := h.log.length

/-- The entries of one connection, or all of them, newest first. -/
def entries (h : History) : (connection : Option String) → List HistoryEntry
  | none => h.log
  | some id => h.log.filter fun e => e.connection = id

end History

end Polystore
