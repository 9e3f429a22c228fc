import Polystore.Number.Shortest
import Polystore.Text.Quoted
import Polystore.Value

/-!
# The text of values

A value has two texts. Its *notation* is how it stands inside a list, a map or a message: texts
are in quotes and the kinds without a literal are shown as an expression. Its *plain text* differs
only for texts, times, identifiers and decimals. An integer of more than 4300 digits and a value of
a foreign type that cannot be shown have no text, and neither has a value that holds one.

* `Value.typeName`: the name of the kind of a value;
* `Value.notated?`: the notation;
* `Value.plain?`: the plain text.
-/

namespace Polystore.Value

open Number Calendar Text

def typeName : Value → String
  | .null => "NoneType"
  | .bool _ => "bool"
  | .int _ => "int"
  | .float _ => "float"
  | .decimal _ => "Decimal"
  | .text _ => "str"
  | .bytes .fixed _ => "bytes"
  | .bytes .growing _ => "bytearray"
  | .bytes .view _ => "memoryview"
  | .date _ => "date"
  | .time _ => "time"
  | .dateTime _ => "datetime"
  | .duration _ => "timedelta"
  | .uuid _ => "UUID"
  | .address (.short _) => "IPv4Address"
  | .address (.long ..) => "IPv6Address"
  | .unprintable name => name
  | .list _ => "list"
  | .tuple _ => "tuple"
  | .map _ => "dict"
  | .int64 _ => "Int64"
  | .decimal128 _ => "Decimal128"
  | .objectId _ => "ObjectId"
  | .binary .. => "Binary"
  | .milliseconds _ => "DatetimeMS"
  | .regex .. => "Regex"
  | .timestamp .. => "Timestamp"
  | .code .. => "Code"
  | .dbRef .. => "DBRef"
  | .minKey => "MinKey"
  | .maxKey => "MaxKey"

/-- The text of sixteen bytes in five groups. -/
def uuidText (b : Bytes) : String :=
  let cs := hexBytes b
  let piece := fun start count => String.ofList ((cs.drop start).take count)
  "-".intercalate [piece 0 8, piece 8 4, piece 12 4, piece 16 4, piece 20 12]

/-- An expression with its arguments in parentheses. -/
def call (name : String) (arguments : List String) : String :=
  name ++ "(" ++ ", ".intercalate arguments ++ ")"

/-- The subtype whose bytes are not shown. -/
def hiddenSubtype : Nat := 8

mutual

/-- The text of a value inside another one. -/
def notated? : Value → Option String
  | .null => some "None"
  | .bool b => some (if b then "True" else "False")
  | .int n => integerText? n
  | .float x => some x.text
  | .decimal d => some (call "Decimal" ["'" ++ d.text ++ "'"])
  | .text s => some (quoted s)
  | .bytes .fixed b => some (quotedBytes b)
  | .bytes .growing b => some (call "bytearray" [quotedBytes b])
  | .bytes .view _ => some "<memory>"
  | .date d => some d.expression
  | .time t => some t.expression
  | .dateTime d => some d.expression
  | .duration d => some d.expression
  | .uuid b => some (call "UUID" ["'" ++ uuidText b ++ "'"])
  | .address a => some (call (typeName (.address a)) ["'" ++ a.text ++ "'"])
  | .unprintable _ => none
  | .list items => (allNotated? items).map fun ts => "[" ++ ", ".intercalate ts ++ "]"
  | .tuple items =>
    (allNotated? items).map fun ts =>
      "(" ++ ", ".intercalate ts ++ (if ts.length = 1 then ",)" else ")")
  | .map entries =>
    (entriesNotated? entries).map fun ts => "\x7b" ++ ", ".intercalate ts ++ "\x7d"
  | .int64 n => integerText? n
  | .decimal128 d => some (call "Decimal128" ["'" ++ d.text ++ "'"])
  | .objectId b => some (call "ObjectId" ["'" ++ String.ofList (hexBytes b) ++ "'"])
  | .binary b subtype =>
    let kind := integerText subtype
    some (if subtype = hiddenSubtype then "<Binary(REDACTED, " ++ kind ++ ")>"
      else call "Binary" [quotedBytes b, kind])
  | .milliseconds n => (integerText? n).map fun t => call "DatetimeMS" [t]
  | .regex pattern flags => some (call "Regex" [quoted pattern, integerText flags])
  | .timestamp seconds increment =>
    some (call "Timestamp" [integerText seconds, integerText increment])
  | .code s none => some (call "Code" [quoted s, "None"])
  | .code s (some scope) => (notated? scope).map fun t => call "Code" [quoted s, t]
  | .dbRef collection id database extra =>
    match notated? id, fieldsNotated? extra with
    | some t, some ts =>
      some (call "DBRef" ([quoted collection, t] ++ (database.map quoted).toList ++ ts))
    | _, _ => none
  | .minKey => some (call "MinKey" [])
  | .maxKey => some (call "MaxKey" [])

def allNotated? : List Value → Option (List String)
  | [] => some []
  | v :: rest =>
    match notated? v, allNotated? rest with
    | some t, some ts => some (t :: ts)
    | _, _ => none

/-- Key and value of every entry, with a colon between them. -/
def entriesNotated? : List (Value × Value) → Option (List String)
  | [] => some []
  | (k, v) :: rest =>
    match notated? k, notated? v, entriesNotated? rest with
    | some s, some t, some ts => some ((s ++ ": " ++ t) :: ts)
    | _, _, _ => none

/-- Name and value of every field, with an equals sign between them. -/
def fieldsNotated? : List (String × Value) → Option (List String)
  | [] => some []
  | (name, v) :: rest =>
    match notated? v, fieldsNotated? rest with
    | some t, some ts => some ((name ++ "=" ++ t) :: ts)
    | _, _ => none

end

/-- The text of a value that stands alone. -/
def plain? : Value → Option String
  | .text s => some s
  | .code s _ => some s
  | .decimal d => some d.text
  | .date d => some (String.ofList d.iso)
  | .time t => some (String.ofList t.iso)
  | .dateTime d => some d.text
  | .duration d => some d.text
  | .uuid b => some (uuidText b)
  | .address a => some a.text
  | .decimal128 d => some d.text
  | .objectId b => some (String.ofList (hexBytes b))
  | .binary b _ => some (quotedBytes b)
  | v => notated? v

end Polystore.Value
