import Polystore.Value.Printer

/-!
# Writing JSON

Null, truth values, numbers, texts, lists and maps have a JSON text. It stands on one line with a
blank behind every comma and colon, or each item and member stands on a line of its own, indented
by two blanks for each level. A value of another kind is refused, or written as the text that
describes it.

* `Json.Layout`: the choices of a writer;
* `Json.Unwritable`: why a value has no JSON text;
* `Json.escapeChar`, `Json.stringText`: strings;
* `Value.toJson`.
-/

namespace Polystore

open Number Text

namespace Json

/-- The choices of a writer. -/
structure Layout where
  /-- Whether items and members stand on lines of their own. -/
  spread : Bool
  /-- Whether characters outside the ASCII range are escaped. -/
  ascii : Bool
  /-- Whether a value of another kind is written as its text. -/
  describes : Bool
deriving DecidableEq, Repr

/-- Why a value has no JSON text. -/
inductive Unwritable
  /-- A number of too many digits. -/
  | number
  | key (typeName : String)
  | kind (typeName : String)
  /-- A value that cannot be shown. -/
  | untold
deriving DecidableEq, Repr

def unitEscape (n : Nat) : List Char := '\\' :: 'u' :: hexPadded 4 n

def escapeChar (ascii : Bool) (c : Char) : List Char :=
  let n := c.toNat
  if c == '"' || c == '\\' then ['\\', c]
  else if c == '\n' then ['\\', 'n']
  else if c == '\r' then ['\\', 'r']
  else if c == '\t' then ['\\', 't']
  else if n == 8 then ['\\', 'b']
  else if n == 12 then ['\\', 'f']
  else if n < 32 then unitEscape n
  else if ascii && 127 ≤ n then
    if n < 0x10000 then unitEscape n
    else unitEscape (0xD800 + (n - 0x10000) / 0x400) ++ unitEscape (0xDC00 + (n - 0x10000) % 0x400)
  else [c]

def stringText (ascii : Bool) (s : String) : List Char :=
  '"' :: (s.toList.flatMap (escapeChar ascii) ++ ['"'])

/-- The text of a float, with names for what is no finite number. -/
def floatText : Binary64 → List Char
  | .nan => "NaN".toList
  | .infinite false => "Infinity".toList
  | .infinite true => "-Infinity".toList
  | x => x.text.toList

def intText (n : Int) : Except Unwritable (List Char) :=
  match integerText? n with
  | some s => .ok s.toList
  | none => .error .number

/-- A line feed and the blanks in front of a line, or nothing if all stands on one line. -/
def lineBreak (layout : Layout) (depth : Nat) : List Char :=
  if layout.spread then '\n' :: List.replicate (2 * depth) ' ' else []

/-- Parts between two brackets, with commas between them; `depth` is the level of the brackets. -/
def enclose (layout : Layout) (depth : Nat) (opening closing : Char) (parts : List (List Char)) :
    List Char :=
  if parts.isEmpty then [opening, closing]
  else
    let comma := if layout.spread then ',' :: lineBreak layout (depth + 1) else [',', ' ']
    opening :: lineBreak layout (depth + 1) ++ comma.intercalate parts
      ++ lineBreak layout depth ++ [closing]

/-- The text of a key, before it is put between quotes. -/
def keyText (k : Value) : Except Unwritable String :=
  match k with
  | .text s => .ok s
  | .code s _ => .ok s
  | .null => .ok "null"
  | .bool b => .ok (if b then "true" else "false")
  | .int n => (intText n).map String.ofList
  | .int64 n => (intText n).map String.ofList
  | .float x => .ok (String.ofList (floatText x))
  | k => .error (.key k.typeName)

end Json

open Json

namespace Value

mutual

/-- The JSON text of a value at a level. -/
def jsonAt (layout : Layout) (depth : Nat) : Value → Except Unwritable (List Char)
  | .null => .ok "null".toList
  | .bool b => .ok (if b then "true" else "false").toList
  | .int n => intText n
  | .int64 n => intText n
  | .float x => .ok (floatText x)
  | .text s => .ok (stringText layout.ascii s)
  | .code s _ => .ok (stringText layout.ascii s)
  | .list items => do return enclose layout depth '[' ']' (← jsonItems layout (depth + 1) items)
  | .tuple items => do return enclose layout depth '[' ']' (← jsonItems layout (depth + 1) items)
  | .map entries => do
    return enclose layout depth '\x7b' '\x7d' (← jsonMembers layout (depth + 1) entries)
  | v =>
    if layout.describes then
      match v.plain? with
      | some s => .ok (stringText layout.ascii s)
      | none => .error .untold
    else .error (.kind v.typeName)

/-- The texts of the items of a list. -/
def jsonItems (layout : Layout) (depth : Nat) : List Value → Except Unwritable (List (List Char))
  | [] => .ok []
  | v :: rest => do return (← jsonAt layout depth v) :: (← jsonItems layout depth rest)

/-- The texts of the members of a map. -/
def jsonMembers (layout : Layout) (depth : Nat) :
    List (Value × Value) → Except Unwritable (List (List Char))
  | [] => .ok []
  | (k, v) :: rest => do
    let name := stringText layout.ascii (← keyText k)
    let member := name ++ ':' :: ' ' :: (← jsonAt layout depth v)
    return member :: (← jsonMembers layout depth rest)

end

def toJson (layout : Layout) (v : Value) : Except Unwritable (List Char) := jsonAt layout 0 v

end Value

end Polystore
