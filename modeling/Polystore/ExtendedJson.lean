import Polystore.Calendar.Stamp
import Polystore.Json.Reader
import Polystore.Number.Decimal
import Polystore.Text.Base64
import Polystore.Value.Whole

/-!
# Extended JSON

JSON has no dates, identifiers, decimals or patterns. Extended JSON writes such a value as an object
with a marked key. The first marked key of an object, in order, decides what the object stands for;
an object without one stands for itself. A marked object of a wrong shape is refused. Objects and
lists may be nested to any depth.

* `ExtendedJson.Mark`: the marked keys;
* `ExtendedJson.convert?`: what an object stands for;
* `ExtendedJson.read`: a whole text.
-/

namespace Polystore.ExtendedJson

open Number Text Calendar

abbrev Fields := OrderedMap String Value

/-- The marked keys. -/
inductive Mark
  | oid
  | ref
  | date
  | regex
  | minKey
  | maxKey
  | binary
  | code
  | uuid
  | undefined
  | numberLong
  | timestamp
  | numberDecimal
  | dbPointer
  | regularExpression
  | symbol
  | numberInt
  | numberDouble
deriving DecidableEq, Repr

def Mark.ofKey? : String → Option Mark
  | "$oid" => some .oid
  | "$ref" => some .ref
  | "$date" => some .date
  | "$regex" => some .regex
  | "$minKey" => some .minKey
  | "$maxKey" => some .maxKey
  | "$binary" => some .binary
  | "$code" => some .code
  | "$uuid" => some .uuid
  | "$undefined" => some .undefined
  | "$numberLong" => some .numberLong
  | "$timestamp" => some .timestamp
  | "$numberDecimal" => some .numberDecimal
  | "$dbPointer" => some .dbPointer
  | "$regularExpression" => some .regularExpression
  | "$symbol" => some .symbol
  | "$numberInt" => some .numberInt
  | "$numberDouble" => some .numberDouble
  | _ => none

/-! ## The kinds of values -/

/-- An identifier: twenty-four hexadecimal digits, or twelve bytes. -/
def objectId? : Value → Option Value
  | .objectId b => some (.objectId b)
  | v =>
    let bytes? := match v.asText?, v.asBytes? with
      | some s, _ => readHexBytes? s.toList
      | _, some b => some b
      | _, _ => none
    bytes?.bind fun b => if b.length = 12 then some (.objectId b) else none

/-- A point in time: a stamp, or milliseconds since 1970. -/
def date? (v : Value) : Option Value :=
  match v.asText? with
  | some s => (DateTime.ofStamp? s.toList).map .dateTime
  | none => (v.toInteger.toOption.bind DateTime.ofMilliseconds?).map .dateTime

def optionFlag : Value → Nat
  | .text "i" => 2
  | .text "l" => 4
  | .text "m" => 8
  | .text "s" => 16
  | .text "u" => 32
  | .text "x" => 64
  | _ => 0

/-- The single options in a value: the characters of a text, the items of a list or the keys of
an object. -/
def options? : Value → Option (List Value)
  | .text s => some (s.toList.map fun c => .text (String.singleton c))
  | .code s _ => some (s.toList.map fun c => .text (String.singleton c))
  | .list items =>
    if items.any fun v => v matches .list _ | .map _ | .code .. | .regex .. then none
    else some items
  | .map entries => some (entries.map Prod.fst)
  | _ => none

/-- A pattern with its options; an object whose pattern is no text stands for itself. -/
def regex? (fields : Fields) : Option Value :=
  match (OrderedMap.get? fields "$regex").bind Value.asText? with
  | none => some (.ofFields fields)
  | some pattern =>
    (options? ((OrderedMap.get? fields "$options").getD (.text ""))).map fun options =>
      .regex pattern ((options.map optionFlag).foldl (· ||| ·) 0)

/-- A pattern and its options as the two fields of an object. -/
def regularExpression? : Value → Option Value
  | .map [(.text name, v), (.text name', v')] => do
    let fields := [(name, v), (name', v')]
    let pattern ← OrderedMap.get? fields "pattern"
    let options ← OrderedMap.get? fields "options"
    if options.asText?.isSome then regex? [("$regex", pattern), ("$options", options)] else none
  | _ => none

/-- A run of hexadecimal digits of any script with single underscores between them. -/
def hexRun? : List Char → Option Nat
  | cs =>
    let rec go : (acc : Nat) → (afterDigit : Bool) → List Char → Option Nat
      | acc, afterDigit, [] => if afterDigit then some acc else none
      | acc, afterDigit, '_' :: rest => if afterDigit then go acc false rest else none
      | acc, _, c :: rest =>
        match hexDigit? (plainDigit c) with
        | some d => go (16 * acc + d) true rest
        | none => none
    go 0 false cs

/-- The integer of a hexadecimal text: an optional sign, an optional mark of the base, and digits,
with spaces around them. -/
def readHexInteger? (cs : List Char) : Option Int :=
  let (negative, cs) := splitSign (trimSpace cs)
  let cs := match cs with
    | '0' :: x :: '_' :: rest => if x == 'x' || x == 'X' then rest else cs
    | '0' :: x :: rest => if x == 'x' || x == 'X' then rest else cs
    | cs => cs
  (hexRun? cs).map fun n => if negative then -(n : Int) else n

/-- Bytes of a subtype below 256; those of the subtype zero are plain. -/
def bytes? (b : Bytes) (subtype : Int) : Option Value :=
  if subtype = 0 then some (.bytes .fixed b)
  else if 0 < subtype ∧ subtype < 256 then some (.binary b subtype.toNat)
  else none

/-- The subtype of bytes beside their text. Subtypes that were extended by their sign have eight
digits, of which the last ones count. -/
def subtypeBeside? (v : Value) : Option Int := do
  let digits ←
    match v with
    | .bool b => some (if b then "01".toList else "00".toList)
    | .int n =>
      some (if n < 0 then '-' :: hexPadded 1 n.natAbs else hexPadded 2 n.natAbs)
    | .int64 n =>
      some (if n < 0 then '-' :: hexPadded 1 n.natAbs else hexPadded 2 n.natAbs)
    | v => v.asText?.map String.toList
  let n ← readHexInteger? digits
  if n < 0xFFFFFF80 then some n else readHexInteger? (digits.drop 6)

/-- Bytes: a text with its subtype beside it, or an object of both. -/
def binary? (fields : Fields) : Option Value := do
  let v ← OrderedMap.get? fields "$binary"
  match OrderedMap.get? fields "$type" with
  | some type =>
    let subtype ← subtypeBeside? type
    bytes? (← readBase64? (← v.asText?).toList) subtype
  | none =>
    match v with
    | .map [(.text name, v), (.text name', v')] =>
      let parts := [(name, v), (name', v')]
      let text ← (← OrderedMap.get? parts "base64").asText?
      let digits ← (← OrderedMap.get? parts "subType").asText?
      if fields.length = 1 ∧ digits.length ≤ 2 then
        bytes? (← readBase64? text.toList) (← readHexInteger? digits.toList)
      else none
    | _ => none

/-- A piece of code, with a scope if it has one. -/
def code? (fields : Fields) : Option Value := do
  let v ← OrderedMap.get? fields "$code"
  let s ← v.asText?
  let own := match v with
    | .code _ scope => scope
    | _ => none
  if fields.any fun entry => entry.1 ≠ "$code" ∧ entry.1 ≠ "$scope" then none
  else
    match OrderedMap.get? fields "$scope", own with
    | none, own => some (.code s own)
    | some .null, own => some (.code s own)
    | some (.map entries), some (.map old) =>
      some (.code s (some (.map (entries.foldl (fun m e => Value.insertKey m e.1 e.2) old))))
    | some (.map entries), _ => some (.code s (some (.map entries)))
    | _, _ => none

/-- A universally unique identifier: thirty-two hexadecimal digits, with dashes and braces. -/
def uuid? (v : Value) : Option Value :=
  match v with
  | .text s => do
    let cs := removeAll "uuid:".toList (removeAll "urn:".toList s.toList)
    let isBrace := fun c => c == '\x7b' || c == '\x7d'
    let cs := ((cs.dropWhile isBrace).reverse.dropWhile isBrace).reverse
    let cs := cs.filter (· != '-')
    let n ← readHexInteger? cs
    if cs.length = 32 ∧ 0 ≤ n then
      (readHexBytes? (hexPadded 32 n.toNat)).map fun b => .binary b 4
    else none
  | _ => none

def maxStampPart : Int := 4294967295

def stampPart? (v : Value) : Option Nat := do
  let n ← match v with
    | .bool b => some (if b then 1 else 0)
    | v => v.asInt?
  if 0 ≤ n ∧ n ≤ maxStampPart then some n.toNat else none

/-- The seconds of a timestamp: a number, or a point in time. -/
def stampSeconds? : Value → Option Nat
  | .dateTime d =>
    let days := (d.date.toDays : Int) - DateTime.epoch.date.toDays
    stampPart? (.int (days * 86400 + d.time.clock.toMicroseconds / 1000000))
  | v => stampPart? v

def timestamp? : Value → Option Value
  | .map entries => do
    let part := fun name => (entries.find? fun e => Value.sameKey e.1 (.text name)).map Prod.snd
    return .timestamp (← stampSeconds? (← part "t")) (← stampPart? (← part "i"))
  | _ => none

/-- The names that the extra fields of a reference cannot have. -/
def referenceParts : List String := ["self", "collection", "id", "database"]

/-- A reference to a document, if collection, identifier and database have the right kinds; an
object that is not one stands for itself. -/
def reference? (fields : Fields) : Option Value :=
  let extra := ["$ref", "$id", "$db"].foldl OrderedMap.erase fields
  let make := fun collection id database =>
    if extra.any fun entry => entry.1 ∈ referenceParts then none
    else some (.dbRef collection id database extra)
  match OrderedMap.get? fields "$ref", OrderedMap.get? fields "$id",
      OrderedMap.get? fields "$db" with
  | some (.text collection), some id, none => make collection id none
  | some (.text collection), some id, some .null => make collection id none
  | some (.text collection), some id, some (.text database) => make collection id (some database)
  | _, _, _ => some (.ofFields fields)

/-- A pointer to a document: a reference by identifier without a database. -/
def pointer? : Value → Option Value
  | .dbRef collection (.objectId b) none [] => some (.dbRef collection (.objectId b) none [])
  | _ => none

/-- What an object with a mark stands for, given the value of the marked key. -/
def ofMark? (fields : Fields) (v : Value) : Mark → Option Value
  | .ref => reference? fields
  | .regex => regex? fields
  | .binary => binary? fields
  | .code => code? fields
  | .undefined => some .null
  | mark =>
    if fields.length ≠ 1 then none
    else
      match mark with
      | .oid => objectId? v
      | .date => date? v
      | .minKey => if v matches .int 1 then some .minKey else none
      | .maxKey => if v matches .int 1 then some .maxKey else none
      | .uuid => uuid? v
      | .numberLong => v.toInteger.toOption.map .int64
      | .timestamp => timestamp? v
      | .numberDecimal => do ((← Decimal.read? (← v.asText?).toList).to128?).map .decimal128
      | .dbPointer => pointer? v
      | .regularExpression => regularExpression? v
      | .symbol => v.plain?.map .text
      | .numberInt => do (readInteger? (← v.asText?).toList).map .int
      | .numberDouble => do (readLooseFloat? (← v.asText?).toList).map .float
      | _ => none

def convert? (fields : Fields) : Option Value :=
  match fields.findSome? fun entry => (Mark.ofKey? entry.1).map (entry.2, ·) with
  | some (v, mark) => ofMark? fields v mark
  | none => some (.ofFields fields)

/-! ## Texts -/

/-- The number of a lexeme; an integer of too many digits is refused. -/
def number? (isFloat : Bool) (lexeme : List Char) : Option Value :=
  if isFloat then (readFloat? lexeme).map .float else (readInteger? lexeme).map .int

def builder : Json.Builder Unit Value where
  null := .null
  bool := .bool
  number := fun isFloat lexeme => (number? isFloat lexeme).elim (.error ()) .ok
  text := .text
  list := .list
  object := fun members => (convert? (OrderedMap.ofList members)).elim (.error ()) .ok

def read (source : List Char) : Except (Json.Refusal Unit) Value := Json.read builder source

end Polystore.ExtendedJson
