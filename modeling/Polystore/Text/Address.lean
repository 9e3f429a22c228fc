import Polystore.Text.Digit
import Polystore.Text.Hex
import Polystore.Text.Pieces

/-!
# Network addresses

* `Address`: four bytes or eight groups of sixteen bits, the latter with an optional zone;
* `Address.text`: dotted decimals, or groups in base sixteen with the longest row of two or more
  zero groups left out;
* `Address.read?`: both forms, and a dotted tail of the second.
-/

namespace Polystore.Text

/-- A network address. -/
inductive Address
  | short (octets : List Nat)
  | long (groups : List Nat) (zone : Option String)
deriving DecidableEq, Repr, Inhabited

namespace Address

/-- The number of zero groups in front. -/
def zerosInFront (groups : List Nat) : Nat := (groups.takeWhile (· == 0)).length

/-- Start and length of the first longest row of zero groups. -/
def longestZeros : (start : Nat) → List Nat → Nat × Nat
  | _, [] => (0, 0)
  | start, g :: rest =>
    let here := zerosInFront (g :: rest)
    let (place, length) := longestZeros (start + 1) rest
    if length ≤ here then (start, here) else (place, length)

/-- Groups in base sixteen between colons. -/
def groupText (groups : List Nat) : List Char :=
  (":".intercalate (groups.map fun g => String.ofList (Nat.toDigits 16 g))).toList

def text : Address → String
  | .short octets => ".".intercalate (octets.map fun n => String.ofList (Nat.toDigits 10 n))
  | .long groups zone =>
    let (start, length) := longestZeros 0 groups
    let body :=
      if 2 ≤ length then
        groupText (groups.take start) ++ ':' :: ':' :: groupText (groups.drop (start + length))
      else groupText groups
    String.ofList body ++ (zone.map ("%" ++ ·)).getD ""

def readOctet? (cs : List Char) : Option Nat := do
  let values ← cs.mapM asciiDigit?
  let n := values.foldl (fun acc d => 10 * acc + d) 0
  if values.isEmpty || 3 < values.length || 255 < n || (1 < values.length && values.head? == some 0)
  then none else some n

/-- Four decimal numbers between points. -/
def readOctets? (cs : List Char) : Option (List Nat) := do
  let octets ← (pieces '.' cs).mapM readOctet?
  if octets.length = 4 then some octets else none

/-- One or two groups: a number in base sixteen, or a dotted tail. -/
def readGroup? (cs : List Char) : Option (List Nat) :=
  if cs.contains '.' then
    match readOctets? cs with
    | some [a, b, c, d] => some [256 * a + b, 256 * c + d]
    | _ => none
  else if 4 < cs.length then none
  else (readHex? cs).map ([·])

/-- The groups of a text between colons; the empty text has none. -/
def readGroups? (cs : List Char) : Option (List Nat) :=
  if cs.isEmpty then some [] else do return (← (pieces ':' cs).mapM readGroup?).flatten

/-- Cut a text at its first double colon. -/
def cutGap : List Char → Option (List Char × List Char)
  | ':' :: ':' :: rest => some ([], rest)
  | c :: rest => (cutGap rest).map fun (front, back) => (c :: front, back)
  | [] => none

def readLong? (cs : List Char) : Option (List Nat) :=
  match cutGap cs with
  | none => do
    let groups ← readGroups? cs
    if groups.length = 8 then some groups else none
  | some (front, back) => do
    let front ← readGroups? front
    let back ← readGroups? back
    let missing := 8 - (front.length + back.length)
    if missing = 0 then none else some (front ++ List.replicate missing 0 ++ back)

def read? (s : String) : Option Address :=
  let cs := s.toList
  if cs.contains ':' then
    let body := cs.takeWhile (· != '%')
    let zone := cs.drop (body.length + 1)
    (readLong? body).map fun groups =>
      .long groups (if body.length = cs.length then none else some (String.ofList zone))
  else (readOctets? cs).map .short

end Address

end Polystore.Text
