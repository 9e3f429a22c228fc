import Polystore.Engine.Reply
import Polystore.Schema

/-!
# Catalog rows

Relational engines describe their tables and columns by rows of a catalog. The rows of an embedded
engine give a rank in the primary key; those of an information schema give words.

* `cell`, `cellText`: a cell of a row, and its text;
* `catalogEntry`: name and type of a table or view;
* `pragmaColumn`, `informationColumn`: a column.
-/

namespace Polystore

def cell (row : List Value) (i : Nat) : Except Fault Value :=
  match row[i]? with
  | some v => .ok v
  | none => .error .missingCell

def cellText (row : List Value) (i : Nat) : Except Fault String := do replyText (← cell row i)

/-- The text of a cell that names a type; all that stands for no is empty. -/
def typeText (v : Value) : Except Fault String := if v.isTrue then replyText v else .ok ""

/-- The text of a cell that may be null. -/
def nullableText (v : Value) : Except Fault (Option String) :=
  match v with
  | .null => .ok none
  | v => (replyText v).map some

/-- Name and type of a table or view. -/
def catalogEntry (row : List Value) : Except Fault (String × String) := do
  return (← cellText row 0, ← cellText row 1)

/-- The rank of a column in the primary key; all that stands for no is zero. -/
def keyRank (v : Value) : Except Fault Int :=
  if v.isTrue then replyInteger v else .ok 0

/-- A column of an embedded engine: number, name, type, whether null is forbidden, default, and rank
in the primary key. -/
def pragmaColumn (row : List Value) : Except Fault ColumnInfo := do
  let name ← cellText row 1
  let type ← typeText (← cell row 2)
  let forbidden ← cell row 3
  let default ← nullableText (← cell row 4)
  let rank ← keyRank (← cell row 5)
  return ⟨name, type, !forbidden.isTrue, default, decide (0 < rank), none⟩

/-- Whether the words about a column name a primary key. -/
def namesPrimaryKey (v : Value) : Except Fault Bool :=
  match v with
  | .null => .ok false
  | v => do return Text.holds "PRIMARY KEY".toList (← replyText v).toList

/-- A column of an information schema: name, type, whether it is nullable, default, and words. -/
def informationColumn (row : List Value) : Except Fault ColumnInfo := do
  let words ← cell row 4
  let name ← cellText row 0
  let type ← cellText row 1
  let nullable ← cell row 2
  let default ← nullableText (← cell row 3)
  return ⟨name, type, nullable matches .text "YES", default, ← namesPrimaryKey words, none⟩

end Polystore
