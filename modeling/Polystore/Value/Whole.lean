import Polystore.Value.Printer

/-!
# Integers of values

A reply that ought to be a count or a number may come as a number of another kind or as a text.
Numbers are cut off towards zero and texts are read; other values have no integer.

* `NoInteger`: why a value has none, with its text `NoInteger.message`;
* `Value.toInteger`;
* `Value.isTrue`: whether a value stands for yes.
-/

namespace Polystore

open Number Text

/-- Why a value has no integer. -/
inductive NoInteger
  | kind (typeName : String)
  /-- A text, in its notation, that is no integer. -/
  | digits (shown : String)
  | tooManyDigits (count : Nat)
  | infinite (isFloat : Bool)
  | undefined (isFloat : Bool)
deriving DecidableEq, Repr

/-- The text that tells why. A long text is shown by its first two hundred characters. -/
def NoInteger.message : NoInteger → String
  | .kind name =>
    "int() argument must be a string, a bytes-like object or a real number, not '" ++ name ++ "'"
  | .digits shown =>
    "invalid literal for int() with base 10: " ++ String.ofList (shown.toList.take 200)
  | .tooManyDigits count =>
    "Exceeds the limit (" ++ toString maxDigits
      ++ " digits) for integer string conversion: value has " ++ toString count
      ++ " digits; use sys.set_int_max_str_digits() to increase the limit"
  | .infinite true => "cannot convert float infinity to integer"
  | .infinite false => "cannot convert Infinity to integer"
  | .undefined true => "cannot convert float NaN to integer"
  | .undefined false => "cannot convert NaN to integer"

namespace Value

/-- The number of digits that a text begins with behind its sign, if they are a run that may be
read. -/
def leadingDigits? (cs : List Char) : Option Nat :=
  let unsigned := match trimSpace cs with
    | '-' :: rest => rest
    | '+' :: rest => rest
    | rest => rest
  (digitRun? (unsigned.takeWhile fun c => c == '_' || (digit? c).isSome)).map List.length

/-- The integer of a text that is shown in a given notation. -/
def readWhole (shown : String) (cs : List Char) : Except NoInteger Int :=
  match readInteger? cs, leadingDigits? cs with
  | some n, _ => .ok n
  | none, some count =>
    .error (if maxDigits < count then .tooManyDigits count else .digits shown)
  | none, none => .error (.digits shown)

/-- The ASCII characters of bytes; the replacement character stands for other bytes. -/
def asciiText (b : Bytes) : List Char :=
  b.map fun byte => if byte.toNat < 128 then Char.ofNat byte.toNat else '\ufffd'

/-- The integer of a big-endian sequence of bytes. -/
def bigEndian (b : Bytes) : Int := b.foldl (fun n byte => 256 * n + byte.toNat) 0

def toInteger (v : Value) : Except NoInteger Int :=
  match v with
  | .bool b => .ok (if b then 1 else 0)
  | .int n => .ok n
  | .int64 n => .ok n
  | .milliseconds n => .ok n
  | .float x =>
    match x with
    | .nan => .error (.undefined true)
    | .infinite _ => .error (.infinite true)
    | x => .ok (x.truncate?.getD 0)
  | .decimal d =>
    match d with
    | .nan .. => .error (.undefined false)
    | .infinite _ => .error (.infinite false)
    | d => .ok (d.truncate?.getD 0)
  | .text s => readWhole (quoted s) s.toList
  | .code s _ => readWhole ((notated? v).getD (quoted s)) s.toList
  | .bytes _ b => readWhole ((notated? v).getD "") (asciiText b)
  | .binary b _ => readWhole ((notated? v).getD "") (asciiText b)
  | .uuid b => .ok (bigEndian b)
  | .address (.short octets) => .ok (octets.foldl (fun n octet => 256 * n + octet) 0 : Nat)
  | .address (.long groups _) => .ok (groups.foldl (fun n group => 65536 * n + group) 0 : Nat)
  | v => .error (.kind v.typeName)

/-- Whether a value stands for yes: null, false, zero and all that is empty do not. -/
def isTrue : Value → Bool
  | .null => false
  | .bool b => b
  | .int n => n != 0
  | .int64 n => n != 0
  | .float x => !x.isZero
  | .decimal d => !d.isZero
  | .text s => !s.isEmpty
  | .code s _ => !s.isEmpty
  | .bytes _ b => !b.isEmpty
  | .binary b _ => !b.isEmpty
  | .duration d => !d.isZero
  | .list items => !items.isEmpty
  | .tuple items => !items.isEmpty
  | .map entries => !entries.isEmpty
  | _ => true

end Value

end Polystore
