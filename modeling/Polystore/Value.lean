import Polystore.Calendar.DateTime
import Polystore.Number.Decimal
import Polystore.OrderedMap
import Polystore.Text.Address
import Polystore.Text.Utf8

/-!
# Values

A value is what a native client hands over for one cell, one field of a document, or one reply.
Relational engines give the scalars, document stores their own kinds besides, and lists and maps
nest without bound. Normalized values use only a part of these kinds.

* `ByteKind`, `Value`;
* `Value.asInt?`, `Value.asText?`, `Value.asBytes?`: the kinds that count as an integer, as a text
  and as bytes;
* `Value.sameKey`, `Value.insertKey`, `Value.ofPairs`: maps with keys of any kind.
-/

namespace Polystore

open Number Calendar Text

/-- The three holders of bytes: fixed, growing, and a view into another. -/
inductive ByteKind
  | fixed
  | growing
  | view
deriving DecidableEq, Repr, Inhabited

/-- A value of a native client. -/
inductive Value
  | null
  | bool (b : Bool)
  | int (n : Int)
  | float (x : Binary64)
  | decimal (d : Decimal)
  | text (s : String)
  | bytes (kind : ByteKind) (b : Bytes)
  | date (d : Date)
  | time (t : Time)
  | dateTime (d : DateTime)
  | duration (d : Duration)
  | uuid (b : Bytes)
  | address (a : Address)
  /-- A value of a foreign type that cannot be shown. -/
  | unprintable (typeName : String)
  | list (items : List Value)
  | tuple (items : List Value)
  | map (entries : List (Value × Value))
  -- kinds of document stores
  | int64 (n : Int)
  | decimal128 (d : Decimal)
  | objectId (b : Bytes)
  | binary (b : Bytes) (subtype : Nat)
  | milliseconds (n : Int)
  | regex (pattern : String) (flags : Nat)
  | timestamp (seconds increment : Nat)
  | code (s : String) (scope : Option Value)
  | dbRef (collection : String) (id : Value) (database : Option String)
      (extra : List (String × Value))
  | minKey
  | maxKey
deriving Repr, Inhabited

namespace Value

/-- The integer of a value that counts as one; a truth value does not. -/
def asInt? : Value → Option Int
  | .int n => some n
  | .int64 n => some n
  | _ => none

/-- The text of a value that counts as one. -/
def asText? : Value → Option String
  | .text s => some s
  | .code s _ => some s
  | _ => none

/-- The bytes of a value that counts as bytes. -/
def asBytes? : Value → Option Bytes
  | .bytes _ b => some b
  | .binary b _ => some b
  | _ => none

/-- The number of a value as an exact quotient with a sign, if it is a finite number. Truth values
count as zero and one. -/
def asRatio? : Value → Option (Int × Nat)
  | .bool b => some (if b then 1 else 0, 1)
  | .int n => some (n, 1)
  | .int64 n => some (n, 1)
  | .float (.finite negative m s) =>
    let n : Int := (m * twoPow s : Nat)
    some (if negative then -n else n, twoPow Binary64.smallest)
  | .decimal (.finite negative c e) =>
    let n : Int := (if 0 ≤ e then c * tenPow e.toNat else c : Nat)
    some (if negative then -n else n, tenPow (-e).toNat)
  | _ => none

mutual

/-- Whether two values are one key of a map: equal numbers of any kind are, equal texts, equal
bytes, and otherwise equal values of one kind. -/
def sameKey : Value → Value → Bool
  | .tuple xs, .tuple ys => sameKeys xs ys
  | .float .nan, .float .nan => false
  | .float (.infinite n), .float (.infinite n') => n == n'
  | .decimal d, .decimal d' =>
    match asRatio? (.decimal d), asRatio? (.decimal d') with
    | some (n, k), some (n', k') => n * k' == n' * k
    | _, _ => d == d'
  | .null, .null => true
  | .text s, .text s' => s == s'
  | .bytes _ b, .bytes _ b' => b == b'
  | .binary b t, .binary b' t' => b == b' && t == t'
  | .date d, .date d' => d == d'
  | .time t, .time t' => t == t'
  | .dateTime d, .dateTime d' => d == d'
  | .duration d, .duration d' => d == d'
  | .uuid b, .uuid b' => b == b'
  | .address a, .address a' => a == a'
  | .objectId b, .objectId b' => b == b'
  | .decimal128 d, .decimal128 d' => d == d'
  | .milliseconds n, .milliseconds n' => n == n'
  | .regex p f, .regex p' f' => p == p' && f == f'
  | .timestamp s i, .timestamp s' i' => s == s' && i == i'
  | .code s _, .code s' _ => s == s'
  | .minKey, .minKey => true
  | .maxKey, .maxKey => true
  | a, b =>
    match asRatio? a, asRatio? b with
    | some (n, k), some (n', k') => n * k' == n' * k
    | _, _ => false

def sameKeys : List Value → List Value → Bool
  | [], [] => true
  | x :: xs, y :: ys => sameKey x y && sameKeys xs ys
  | _, _ => false

end

/-- Give a key of a map a value: in place if the key is present, at the end if not. -/
def insertKey : List (Value × Value) → Value → Value → List (Value × Value)
  | [], key, value => [(key, value)]
  | (k, v) :: rest, key, value =>
    if sameKey k key then (k, value) :: rest else (k, v) :: insertKey rest key value

/-- The map of a list of pairs: a repeated key keeps its first place and takes its last value. -/
def ofPairs (pairs : List (Value × Value)) : Value :=
  .map (pairs.foldl (fun m entry => insertKey m entry.1 entry.2) [])

def ofFields (fields : OrderedMap String Value) : Value :=
  .map (fields.map fun entry => (.text entry.1, entry.2))

end Value

end Polystore
