import Polystore.Text.Blank
import Polystore.Text.Pieces
import Polystore.Text.Upper
import Polystore.Value

/-!
# Type labels

A native type is announced by a label such as `varchar(255)` or `BIGINT UNSIGNED`. Its canonical
form has no parameters, no modifiers of numbers, capitals only, and single spaces. The canonical
label names the family of the type.

* `canonicalLabel`;
* `TypeFamily`, `TypeFamily.ofLabel`;
* `Value.documentLabel`: the label of a column of documents, read off a value;
* `Value.storageClass`: the label of a cell of an embedded engine, likewise.
-/

namespace Polystore

open Text

/-- Leave out what stands between the first opening parenthesis of a line and its last closing
one, if there is one behind the other. -/
def dropParameters (line : List Char) : List Char :=
  let front := line.takeWhile (· != '(')
  let rest := line.dropWhile (· != '(')
  if rest.contains ')' then front ++ (rest.reverse.takeWhile (· != ')')).reverse else line

/-- The label without parameters, line by line. -/
def bareLabel (cs : List Char) : List Char := join '\n' ((pieces '\n' cs).map dropParameters)

/-- The modifiers that are left out, wherever they stand in a label. -/
def dropModifiers (cs : List Char) : List Char :=
  removeAll "ZEROFILL".toList (removeAll "UNSIGNED".toList cs)

/-- Words with single spaces between them. -/
def singleSpaced (cs : List Char) : List Char := join ' ' (words cs)

/-- The canonical form of a label, on characters. -/
def canonicalChars (cs : List Char) : List Char :=
  singleSpaced (dropModifiers (upper (bareLabel cs)))

/-- The canonical form of a label; no label at all has the empty one. -/
def canonicalLabel : Option String → String
  | none => ""
  | some label => String.ofList (canonicalChars label.toList)

/-- The families of native types that keep their values. -/
inductive TypeFamily
  | boolean
  | integer
  | float
  | text
  | other
deriving DecidableEq, Repr

namespace TypeFamily

/-- The canonical labels of truth values. -/
def booleanLabels : List String := ["BOOLEAN", "BOOL"]

/-- The canonical labels of integers. -/
def integerLabels : List String :=
  ["TINYINT", "SMALLINT", "MEDIUMINT", "INT", "INTEGER", "BIGINT", "INT2", "INT4", "INT8",
    "SMALLSERIAL", "SERIAL", "BIGSERIAL"]

/-- The canonical labels of floats and decimals. -/
def floatLabels : List String :=
  ["REAL", "FLOAT", "FLOAT4", "FLOAT8", "DOUBLE", "DOUBLE PRECISION", "DECIMAL", "NUMERIC"]

def textLabels : List String :=
  ["TEXT", "VARCHAR", "CHAR", "BPCHAR", "CHARACTER", "CHARACTER VARYING", "STRING", "NAME"]

/-- The family that a canonical label names. -/
def ofLabel (label : String) : TypeFamily :=
  if label ∈ booleanLabels then .boolean
  else if label ∈ integerLabels then .integer
  else if label ∈ floatLabels then .float
  else if label ∈ textLabels then .text
  else .other

end TypeFamily

namespace Value

/-- The label of a column of documents whose first value is given. -/
def documentLabel : Value → String
  | .null => "Null"
  | .bool _ => "Boolean"
  | .int _ => "Int64"
  | .int64 _ => "Int64"
  | .float _ => "Double"
  | .list _ => "Array"
  | .map _ => "Document"
  | _ => "String"

/-- The storage class of a cell of an embedded engine. -/
def storageClass : Value → String
  | .null => "NULL"
  | .bool _ => "INTEGER"
  | .int _ => "INTEGER"
  | .int64 _ => "INTEGER"
  | .float _ => "REAL"
  | .text _ => "TEXT"
  | .code .. => "TEXT"
  | _ => "BLOB"

end Value

end Polystore
