import Polystore.Value

/-!
# TOML documents

A document is a table of scalars, arrays and tables. It grows by statements: a header opens a table
or appends one to an array, and a pair gives a key of the open table a value. A table is opened at
most once, arrays and tables that are written as values never change again, and no key is given a
value twice.

* `Toml`, `Toml.Fields`;
* `Toml.within?`: changing a table under a path;
* `Toml.Marks`: the paths that are opened, and those that are closed for good;
* `Toml.Document`, with `openTable?`, `appendTable?` and `assign?`.
-/

namespace Polystore

/-- A value of a document. -/
inductive Toml
  | scalar (v : Value)
  | array (items : List Toml)
  | table (fields : List (String × Toml))

namespace Toml

abbrev Fields := OrderedMap String Toml

/-- A sequence of keys that leads to a value. -/
abbrev Path := List String

def changeLast? (f : Toml → Option Toml) : List Toml → Option (List Toml)
  | [] => none
  | [item] => do return [← f item]
  | item :: rest => do return item :: (← changeLast? f rest)

/-- Change the table under a path. Missing tables are made, and, if `lists` holds, the path leads
into the last table of an array. -/
def within? (lists : Bool) (f : Fields → Option Fields) : Path → Fields → Option Fields
  | [], fields => f fields
  | key :: path, fields =>
    let inside := fun item : Toml =>
      match item with
      | .table sub => (within? lists f path sub).map .table
      | _ => none
    match OrderedMap.get? fields key with
    | none => do return OrderedMap.insert fields key (.table (← within? lists f path []))
    | some (.table sub) =>
      do return OrderedMap.insert fields key (.table (← within? lists f path sub))
    | some (.array items) =>
      if lists then do return OrderedMap.insert fields key (.array (← changeLast? inside items))
      else none
    | some (.scalar _) => none

def insertNew? (key : String) (item : Toml) (fields : Fields) : Option Fields :=
  if OrderedMap.contains fields key then none else some (OrderedMap.insert fields key item)

/-- Append an empty table to the array of a key. -/
def appendNew? (key : String) (fields : Fields) : Option Fields :=
  match OrderedMap.get? fields key with
  | none => some (OrderedMap.insert fields key (.array [.table []]))
  | some (.array items) => some (OrderedMap.insert fields key (.array (items ++ [.table []])))
  | some _ => none

/-- Whether a value is an array or a table. -/
def isNested : Toml → Bool
  | .scalar _ => false
  | _ => true

/-! ## Marks -/

/-- The paths of tables that are opened, and the paths whose values never change again. -/
structure Marks where
  opened : List Path
  closed : List Path

namespace Marks

def none : Marks := ⟨[], []⟩

/-- Whether a table was opened before. -/
def isOpened (m : Marks) (path : Path) : Bool := m.opened.contains path

/-- Whether a path leads into a value that never changes again. -/
def isClosed (m : Marks) (path : Path) : Bool := m.closed.any (·.isPrefixOf path)

def addOpened (m : Marks) (path : Path) : Marks := { m with opened := path :: m.opened }

/-- Mark a value that never changes again. -/
def addClosed (m : Marks) (path : Path) : Marks := { m with closed := path :: m.closed }

/-- Forget the marks at and below a path. -/
def forget (m : Marks) (path : Path) : Marks :=
  ⟨m.opened.filter (!path.isPrefixOf ·), m.closed.filter (!path.isPrefixOf ·)⟩

end Marks

/-! ## Documents -/

/-- The part of a document that was read: its fields, the marks, the tables that dotted keys made
since the last header, and the path of the open table. -/
structure Document where
  fields : Fields
  marks : Marks
  pending : List Path
  header : Path

namespace Document

def start : Document := ⟨[], .none, [], []⟩

/-- Count the tables that dotted keys made as opened. -/
def settle (d : Document) : Document :=
  { d with marks := { d.marks with opened := d.pending ++ d.marks.opened }, pending := [] }

def openTable? (d : Document) (path : Path) : Option Document :=
  let d := d.settle
  if d.marks.isOpened path || d.marks.isClosed path then none
  else do
    let fields ← within? true some path d.fields
    return { d with fields, marks := d.marks.addOpened path, header := path }

/-- Append a table to the array of a header. -/
def appendTable? (d : Document) (path : Path) : Option Document :=
  let d := d.settle
  if d.marks.isClosed path then none
  else do
    let key ← path.getLast?
    let fields ← within? true (appendNew? key) path.dropLast d.fields
    return { d with fields, marks := (d.marks.forget path).addOpened path, header := path }

/-- The paths of the tables that a dotted key leads through. -/
def through (header : Path) (key : Path) : List Path :=
  (List.range (key.length - 1)).map fun i => header ++ key.take (i + 1)

/-- Give a dotted key of the open table a value. -/
def assign? (d : Document) (key : Path) (item : Toml) : Option Document :=
  let paths := through d.header key
  let parent := d.header ++ key.dropLast
  if paths.any d.marks.isOpened || d.marks.isClosed parent then none
  else do
    let fields ← within? true (insertNew? (← key.getLast?) item) parent d.fields
    let marks := if item.isNested then d.marks.addClosed (d.header ++ key) else d.marks
    return { d with fields, marks, pending := paths ++ d.pending }

end Document

end Toml

end Polystore
