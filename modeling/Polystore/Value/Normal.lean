import Polystore.Value.Printer
import Polystore.Value.TypeLabel

/-!
# Normalization

A normalized value is null, a truth value, an integer of 64 bits, a finite float, a text, a list
or a map with texts as keys. A cell of a relational engine or of a key-value store keeps its kind
if its declared type allows for it, and becomes a text if not; a value of a document store keeps
its shape. Normalization always gives an answer: a value without a text becomes the name of its
kind with its label. Lists and maps are followed as deep as they go; the stack of a run is no part
of the model.

* `Value.toFiniteFloat?`: the finite float of a number;
* `Value.describe`: the text of any value;
* `normalize`: a cell under its declared type;
* `normalizeDocumentValue`, `normalizeDocument`: a value of a document store, and a document;
* `Value.IsNormal`: what normalized values look like.
-/

namespace Polystore

open Number Calendar Text

/-- The smallest and the largest integer of 64 bits. -/
def minInt64 : Int := -9223372036854775808

@[inherit_doc minInt64]
def maxInt64 : Int := 9223372036854775807

def isInt64 (n : Int) : Bool := minInt64 ≤ n && n ≤ maxInt64

namespace Value

/-- The float of a number, unless it is beyond the finite floats or no number at all. -/
def toFiniteFloat? : Value → Option Binary64
  | .int n => Binary64.ofInt? n
  | .int64 n => Binary64.ofInt? n
  | .float x => if x.isFinite then some x else none
  | .decimal d => d.toFloat?.filter Binary64.isFinite
  | _ => none

/-- The text of bytes: the text that they encode, or their hexadecimal digits. -/
def bytesText (b : Bytes) : String := (decodeUtf8? b).getD (String.ofList (hexBytes b))

/-- The text of a value of any kind; the label stands in for what has no text. -/
def describe (label : String) (v : Value) : String :=
  match v with
  | .text s => s
  | .code s _ => s
  | .bytes _ b => bytesText b
  | .binary b _ => bytesText b
  | .dateTime d => d.iso
  | v =>
    match plain? v with
    | some s => s
    | none => typeName v ++ "(" ++ (if label.isEmpty then "UNKNOWN" else label) ++ ")"

/-- The value itself, if a type of the family holds it. -/
def keep? : TypeFamily → Value → Option Value
  | .boolean, .bool b => some (.bool b)
  | .boolean, v =>
    match v.asInt? with
    | some 0 => some (.bool false)
    | some 1 => some (.bool true)
    | _ => none
  | .integer, v =>
    match v.asInt? with
    | some n => if isInt64 n then some (.int n) else none
    | none => none
  | .float, v => v.toFiniteFloat?.map .float
  | .text, v => v.asText?.map .text
  | .other, _ => none

def normalizeAs (label : String) (v : Value) : Value :=
  match v with
  | .null => .null
  | v => (keep? (.ofLabel label) v).getD (.text (describe label v))

def keyText (k : Value) : String :=
  match plain? k with
  | some s => s
  | none => typeName k ++ "(" ++ typeName k ++ ")"

end Value

/-- A cell of a relational engine or a key-value store under its declared type. -/
def normalize (v : Value) (declared : Option String) : Value :=
  v.normalizeAs (canonicalLabel declared)

mutual

def normalizeDocumentValue : Value → Value
  | .null => .null
  | .bool b => .bool b
  | .int n => normalize (.int n) (some "BIGINT")
  | .int64 n => normalize (.int64 n) (some "BIGINT")
  | .float x => normalize (.float x) (some "DOUBLE")
  | .map entries => .ofFields (OrderedMap.ofList (normalizeEntries entries))
  | .list items => .list (normalizeItems items)
  | .tuple items => .list (normalizeItems items)
  | v => .text (v.describe v.typeName)

def normalizeItems : List Value → List Value
  | [] => []
  | v :: rest => normalizeDocumentValue v :: normalizeItems rest

/-- The entries of a map, in order, with the texts of the keys. -/
def normalizeEntries : List (Value × Value) → List (String × Value)
  | [] => []
  | (k, v) :: rest => (k.keyText, normalizeDocumentValue v) :: normalizeEntries rest

end

/-- The fields of a document, in order. -/
def normalizeDocument (entries : List (Value × Value)) : OrderedMap String Value :=
  OrderedMap.ofList (normalizeEntries entries)

/-- What normalized values look like. -/
inductive Value.IsNormal : Value → Prop
  | null : IsNormal .null
  | bool (b : Bool) : IsNormal (.bool b)
  | int (n : Int) (h : isInt64 n = true) : IsNormal (.int n)
  | float (x : Binary64) (h : x.isFinite = true) : IsNormal (.float x)
  | text (s : String) : IsNormal (.text s)
  | list (items : List Value) (h : ∀ v ∈ items, IsNormal v) : IsNormal (.list items)
  | map (fields : OrderedMap String Value) (distinct : fields.keys.Nodup)
      (h : ∀ entry ∈ fields, IsNormal entry.2) : IsNormal (.ofFields fields)

end Polystore
