import Polystore.Failure

/-!
# Replies without a declared shape

Some clients answer with a value whose shape depends on the data. An engine goes through its items
or entries, takes pairs apart and looks it up in a table; a value of another shape is a fault.

* `replyItems`, `replyEntries`, `replyPair`;
* `replyKey`: a value that can be looked up;
* `replyInteger`, `replyText`.
-/

namespace Polystore

open Text

/-- The items of a value that can be gone through: those of a list, the characters of a text, the
bytes of a sequence, the keys of a map. -/
def replyItems (v : Value) : Except Fault (List Value) :=
  match v with
  | .list items => .ok items
  | .tuple items => .ok items
  | .map entries => .ok (entries.map Prod.fst)
  | v =>
    match v.asText?, v.asBytes? with
    | some s, _ => .ok (s.toList.map fun c => .text (String.singleton c))
    | none, some b => .ok (b.map fun byte => .int byte.toNat)
    | none, none => .error (.noItems v.typeName)

def replyEntries : Value → Except Fault (List (Value × Value))
  | .map entries => .ok entries
  | v => .error (.noEntries v.typeName)

def replyPair (v : Value) : Except Fault (Value × Value) := do
  match ← replyItems v with
  | [a, b] => return (a, b)
  | _ => .error .noPair

mutual

/-- Whether a value can be a key of a table: what grows or changes cannot. -/
def canBeKey : Value → Bool
  | .list _ => false
  | .map _ => false
  | .bytes .growing _ => false
  | .regex .. => false
  | .code .. => false
  | .decimal128 _ => false
  | .tuple items => allCanBeKeys items
  | _ => true

def allCanBeKeys : List Value → Bool
  | [] => true
  | v :: rest => canBeKey v && allCanBeKeys rest

end

def replyKey (v : Value) : Except Fault Value :=
  if canBeKey v then .ok v else .error (.noKey v.typeName)

def replyInteger (v : Value) : Except Fault Int := v.toInteger.mapError .integer

def replyText (v : Value) : Except Fault String :=
  match v.plain? with
  | some s => .ok s
  | none => .error .noText

end Polystore
