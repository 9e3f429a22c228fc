import Polystore.Failure

/-!
# Comma-separated values

A table is written as records that end in a line feed, one for the names of the columns and one for
every row. Between the fields of a record stands a delimiter. A field that holds the delimiter, a
double quote or a line feed is put between double quotes, and a double quote inside it is doubled;
so is an empty field that is the only one of its record, because a record without fields is an
empty line.

* `Csv.needsQuotes`, `Csv.field`, `Csv.record`;
* `Csv.cellText`: the text of a cell;
* `Csv.written`, `Table.toCsv`.
-/

namespace Polystore

namespace Csv

/-- Whether a field is put between quotes. -/
def needsQuotes (delimiter : Char) (cs : List Char) : Bool :=
  cs.any fun x => x == delimiter || x == '"' || x == '\n'

def inQuotes (cs : List Char) : List Char :=
  '"' :: (cs.flatMap (fun x => if x = '"' then ['"', '"'] else [x]) ++ ['"'])

def field (delimiter : Char) (cs : List Char) : List Char :=
  if needsQuotes delimiter cs then inQuotes cs else cs

def record (delimiter : Char) (fields : List (List Char)) : List Char :=
  match fields with
  | [[]] => inQuotes [] ++ ['\n']
  | fields => Text.join delimiter (fields.map (field delimiter)) ++ ['\n']

/-- The layout of lists and maps in a cell. -/
def cellLayout : Json.Layout := ⟨false, false, false⟩

/-- The text of a cell: nothing for null, JSON for lists and maps, and the plain text otherwise. -/
def cellText (v : Value) : Except Fault (List Char) :=
  match v with
  | .null => .ok []
  | .bool b => .ok (if b then "true" else "false").toList
  | .list _ => (v.toJson cellLayout).mapError .json
  | .map _ => (v.toJson cellLayout).mapError .json
  | .int n =>
    match Number.integerText? n with
    | some s => .ok s.toList
    | none => .error .noText
  | v =>
    match v.plain? with
    | some s => .ok s.toList
    | none => .error (.json .untold)

/-- Names, if they are asked for, and rows as records. -/
def written (headers : Bool) (delimiter : Char) (names : List String) (rows : List (List Value)) :
    Except Fault (List Char) := do
  let rows ← rows.mapM (·.mapM cellText)
  let records := if headers then names.map String.toList :: rows else rows
  return records.flatMap (record delimiter)

end Csv

/-- A table as comma-separated values. -/
def Table.toCsv (t : Table) (headers : Bool) (delimiter : Char) : Except Fault (List Char) :=
  Csv.written headers delimiter t.names t.rows

end Polystore
